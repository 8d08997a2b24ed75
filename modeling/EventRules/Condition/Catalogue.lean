/-
The catalogue of all clauses, in the order in which their checks run: cheap ones on the world first.
Compiling the conditions of a document means going through the catalogue, each clause taking what it
needs out of what those before it left.
-/
import EventRules.Condition.World
import EventRules.Condition.Player
import EventRules.Condition.Entity
namespace EventRules.Condition

/-- The clauses on the surroundings of the event, in order. -/
def surroundings : List Clause :=
  placeAndTime ++ worldState ++ blocksAndBiomes ++ equipment ++ structuresAndStates ++
    seasonsStagesCities ++ jewellery

/-- The clauses on the entity and on the event itself, in order. -/
def occasion : List Clause := nature ++ attack ++ countsAndDays

/-- All clauses, in order. -/
def catalogue : List Clause := surroundings ++ occasion

/-- The checks under some clauses, and what these leave of the document. -/
def compileBy (host : Host) : List Clause → AttributeMap → Reported (List Check × AttributeMap)
  | [], m => pure ([], m)
  | c :: rest, m => do
    let (first, m) ← c.compile host m
    let (others, m) ← compileBy host rest m
    return (first.toList ++ others, m)

/-- The checks of a document, and what its conditions leave of it. The two keywords that say when a
rule applies at all are no conditions; they are taken here and read by the rule before. -/
def compile (host : Host) (m : AttributeMap) : Reported (List Check × AttributeMap) := do
  let (around, m) ← compileBy host surroundings m
  let (_, m) := m.take Keyword.onJoin
  let (_, m) := m.takeAll Keyword.phase
  let (own, m) ← compileBy host occasion m
  return (around ++ own, m)

end EventRules.Condition
