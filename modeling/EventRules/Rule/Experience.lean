/-
Experience rules: they adjust or cancel the experience that a dying entity drops.
-/
import EventRules.Condition.Catalogue
import EventRules.Rule.Outcome
namespace EventRules

structure ExperienceRule where
  checks : List Check
  phases : Phases
  result : Outcome
  setXp : Option Int32
  multXp : Single
  addXp : Single

namespace ExperienceRule

open Keyword

/-- The keywords of experience rules. -/
def declarations : DeclarationSet :=
  DeclarationSet.empty
    |>.multi phase |>.single minTime |>.single maxTime |>.single minLight |>.single maxLight
    |>.single minHeight |>.single maxHeight |>.single minDifficulty |>.single maxDifficulty
    |>.single minSpawnDistance |>.single maxSpawnDistance |>.single random |>.single inBuilding
    |>.single inCity |>.single inStreet |>.single inSphere |>.single passive |>.single hostile
    |>.single seeSky |>.single weather |>.multi category |>.single difficulty
    |>.single structureName |>.single player |>.single realPlayer |>.single fakePlayer
    |>.single winter |>.single summer |>.single spring |>.single autumn |>.single state
    |>.single playerState |>.multi mob |>.multi mod |>.multi block |>.single blockOffset
    |>.multi biome |>.multi biomeType |>.multi dimension |>.multi dimensionMod |>.multi heldItem
    |>.multi playerHeldItem |>.multi offHandItem |>.multi bothHandsItem
    |>.single Keyword.result |>.single Keyword.setXp |>.single Keyword.addXp
    |>.single Keyword.multXp

/-! ## Building -/

/-- The rule of a document's attributes. -/
def ofAttributes (host : Host) (m : AttributeMap) (phases : Phases) :
    Reported ExperienceRule := do
  let (checks, m) ← Condition.compile host m
  let (word, m) := m.take Keyword.result
  let (setXp, m) := m.take Keyword.setXp
  let (addXp, m) := m.take Keyword.addXp
  let (multXp, m) := m.take Keyword.multXp
  reportLeftovers .experience m
  return {
    checks := checks
    phases := phases
    result := (word.map Outcome.ofKeyword).getD .default
    setXp := setXp
    multXp := multXp.getD (.one : Single)
    addXp := addXp.getD (.zero false : Single) }

/-- The rule of a document, none if the document is malformed. -/
def ofDocument (declarations : DeclarationSet) (host : Host) (document : Json) :
    Reported (Option ExperienceRule) := do
  match ← documentAttributes declarations document with
  | none => return none
  | some (m, phases) =>
    let rule ← ofAttributes host m phases
    return some rule

/-! ## Using a rule -/

def isMatch (r : ExperienceRule) : Event → Generator → Except Fault Bool × Generator :=
  Check.allPass r.checks

def report (r : ExperienceRule) : Event → Generator → Except Fault MatchReport × Generator :=
  Check.report r.checks

/-- The experience after the rule: an amount that is set takes the place of what was dropped, then
it is scaled and offset in single precision, and rounded toward zero. -/
def modifyXp (r : ExperienceRule) (xp : Int32) : Int32 :=
  let base : Single := .ofInt (r.setXp.getD xp).toInt
  (base * r.multXp + r.addXp).toInt32

end ExperienceRule

end EventRules
