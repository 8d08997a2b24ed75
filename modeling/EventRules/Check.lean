/-
Checks, and the evaluation of a list of them. Evaluation goes through the checks in order and stops
at the first that fails, or at a fault; a chance draws one word from the random generator, no other
check draws any. The detailed evaluation also tells which checks it looked at.
-/
import EventRules.Fault
import EventRules.World.Event
import EventRules.Generator
namespace EventRules

/-- What a check tests: a chance, a fact about the event, or a bound on a count that has to be made
first. -/
inductive Test where
  | chance (probability : Single)
  | fact (holds : Event → Bool)
  | count (holds : Event → Except Fault Bool)

/-- A test with the keyword it was built from. -/
structure Check where
  keyword : String
  test : Test

/-- Whether the test passes. -/
def Test.run : Test → Event → Generator → Except Fault Bool × Generator
  | .chance p, _, g =>
    let (w, g) := g.next
    (.ok ((Generator.fraction w).lt p), g)
  | .fact holds, e, g => (.ok (holds e), g)
  | .count holds, e, g => (holds e, g)

/-! ## All checks of a rule -/

/-- What a detailed evaluation tells: the keywords it looked at, and the one that failed. -/
structure MatchReport where
  evaluated : List String
  failedAt : Option String
deriving DecidableEq

namespace MatchReport

def matched (r : MatchReport) : Bool := r.failedAt.isNone

def text (r : MatchReport) : String :=
  let verdict := match r.failedAt with
    | some key => "matched: false (failed at " ++ key ++ ")"
    | none => "matched: true"
  verdict ++ ", evaluated: [" ++ ", ".intercalate r.evaluated ++ "]"

end MatchReport

namespace Check

/-- Whether every check passes; no check at all always does. -/
def allPass : List Check → Event → Generator → Except Fault Bool × Generator
  | [], _, g => (.ok true, g)
  | c :: rest, e, g =>
    match c.test.run e g with
    | (.ok true, g) => allPass rest e g
    | (.ok false, g) => (.ok false, g)
    | (.error fault, g) => (.error fault, g)

/-- Like `allPass`, and tells how far it came. -/
def report : List Check → Event → Generator → Except Fault MatchReport × Generator
  | [], _, g => (.ok ⟨[], none⟩, g)
  | c :: rest, e, g =>
    match c.test.run e g with
    | (.ok true, g) =>
      let (r, g) := report rest e g
      (r.map fun r => ⟨c.keyword :: r.evaluated, r.failedAt⟩, g)
    | (.ok false, g) => (.ok ⟨[c.keyword], some c.keyword⟩, g)
    | (.error fault, g) => (.error fault, g)

end Check

end EventRules
