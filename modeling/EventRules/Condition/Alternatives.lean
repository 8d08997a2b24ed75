/-
Whether a subject is among some values. One value is compared with, several are looked up in a set;
of no value at all there is no such question.
-/
namespace EventRules

inductive Alternatives (α : Type) where
  | one (value : α)
  | set (members : List α)

namespace Alternatives

variable {α : Type}

/-- The question for some values. -/
def of? : List α → Option (Alternatives α)
  | [] => none
  | [value] => some (.one value)
  | values => some (.set values)

def contains [BEq α] : Alternatives α → α → Bool
  | .one value, x => value == x
  | .set members, x => members.contains x

end Alternatives

end EventRules
