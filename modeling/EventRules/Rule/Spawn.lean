/-
Spawn rules: whether an entity may spawn or join the world, and what is done to it when it does.
-/
import EventRules.Action.Compile
import EventRules.Condition.Catalogue
import EventRules.Rule.Outcome
namespace EventRules

structure SpawnRule where
  checks : List Check
  actions : List Action
  phases : Phases
  /-- The rule is for entities that join the world, not for spawn attempts. -/
  onJoin : Bool
  /-- What becomes of the event; `none` leaves it alone. -/
  result : Option Outcome
  /-- Later rules are still looked at after this one matched. -/
  continues : Bool

namespace SpawnRule

open Keyword

/-! ## Keywords -/

def declaredConditions : DeclarationSet :=
  DeclarationSet.empty
    |>.single Keyword.onJoin |>.multi phase |>.single minTime |>.single maxTime |>.single dayCount
    |>.single minDayCount |>.single maxDayCount |>.single minCount |>.single maxCount
    |>.single minLight |>.single maxLight |>.single minHeight |>.single maxHeight
    |>.single minDifficulty |>.single maxDifficulty |>.single minSpawnDistance
    |>.single maxSpawnDistance |>.single random |>.single canSpawnHere |>.single notColliding
    |>.single spawner |>.single inControl |>.single inBuilding |>.single inCity |>.single inStreet
    |>.single inSphere |>.single gameStage |>.single passive |>.single hostile |>.single seeSky
    |>.single weather |>.multi category |>.single difficulty |>.single structureName
    |>.single winter |>.single summer |>.single spring |>.single autumn |>.multi mob |>.multi mod
    |>.multi block |>.single blockOffset |>.multi biome |>.multi biomeType |>.multi dimension
    |>.multi dimensionMod |>.single state |>.multi helmet |>.multi chestplate |>.multi leggings
    |>.multi boots |>.multi amulet |>.multi ring |>.multi belt |>.multi trinket |>.multi head
    |>.multi body |>.multi charm |>.multi playerHeldItem |>.multi offHandItem
    |>.multi bothHandsItem

/-- The keywords of spawn rules. -/
def declarations : DeclarationSet :=
  declaredConditions
    |>.single Keyword.result |>.single Keyword.continues |>.single message |>.single healthSet
    |>.single healthMultiply |>.single healthAdd |>.single speedSet |>.single speedMultiply
    |>.single speedAdd |>.single damageSet |>.single damageMultiply |>.single damageAdd
    |>.single sizeMultiply |>.single sizeAdd |>.single angry |>.single mobNbt |>.single customName
    |>.multi heldItem |>.multi armorBoots |>.multi armorLegs |>.multi armorChest
    |>.multi armorHelmet |>.multi potion

/-! ## Building -/

/-- The rule of a document's attributes. The keyword `helditem` equips the entity here, so its values
are out of the document while the conditions are made, and filed again for the actions. -/
def ofAttributes (host : Host) (m : AttributeMap) (phases : Phases) :
    Reported (Except Fault SpawnRule) := do
  let onJoin : Option Bool := m.get? Keyword.onJoin
  let (held, m) := m.takeAll heldItem
  let (checks, m) ← Condition.compile host m
  let m := match held with
    | some values => m.fileAll heldItem.name values
    | none => m
  match ← Action.compile host.registry m with
  | .error fault => return .error fault
  | .ok (actions, m) =>
    let (word, m) := m.take Keyword.result
    let (continues, m) := m.take Keyword.continues
    reportLeftovers .spawn m
    return .ok {
      checks := checks
      actions := actions
      phases := phases
      onJoin := onJoin.getD false
      result := word.map Outcome.ofKeyword
      continues := continues.getD false }

/-- The rule of a document, none if the document is malformed. -/
def ofDocument (declarations : DeclarationSet) (host : Host) (document : Json) :
    Reported (Except Fault (Option SpawnRule)) := do
  match ← documentAttributes declarations document with
  | none => return .ok none
  | some (m, phases) =>
    let rule ← ofAttributes host m phases
    return rule.map some

/-! ## Using a rule -/

def isMatch (r : SpawnRule) : Event → Generator → Except Fault Bool × Generator :=
  Check.allPass r.checks

def report (r : SpawnRule) : Event → Generator → Except Fault MatchReport × Generator :=
  Check.report r.checks

/-- Runs the actions on a matched entity. -/
def apply (r : SpawnRule) : Target → Generator → List Change × Target × Generator :=
  Action.applyAll r.actions

/-! ## Diagnostic text -/

/-- A list of quoted texts between two brackets. -/
def quotedList (left : String) (texts : List String) (right : String) : String :=
  left ++ ", ".intercalate (texts.map Text.quoted) ++ right

def boolText (b : Bool) : String := if b then "true" else "false"

def resultText : Option Outcome → String
  | none => "None"
  | some .allow => "Some(Allow)"
  | some .deny => "Some(Deny)"
  | some .default => "Some(Default)"

/-- The rule on one line, for diagnostic output. -/
def describe (r : SpawnRule) : String :=
  "SpawnRule \x7b evaluator: RuleEvaluator \x7b checks: " ++
    quotedList "[" (r.checks.map Check.keyword) "]" ++ " \x7d, actions: " ++
    Decimal.text r.actions.length ++ ", phases: Phases(" ++
    quotedList "\x7b" r.phases.toList "\x7d" ++ "), on_join: " ++ boolText r.onJoin ++
    ", result: " ++ resultText r.result ++ ", do_continue: " ++ boolText r.continues ++ " \x7d"

end SpawnRule

end EventRules
