/-
Range expressions in rule documents: a text of their grammar, or a number for equality with it.
-/
import EventRules.Specifier.Range
import EventRules.Problem
namespace EventRules

/-- A number that is no 64-bit integer is brought to one, rounded toward zero. -/
def RangeExpr.ofJson : Json → Except Problem RangeExpr
  | .number n =>
    match n.int64? with
    | some v => .ok (.equal v)
    | none => .ok (.equal n.toDouble.toInt64)
  | .string s =>
    match RangeExpr.parse s with
    | .ok e => .ok e
    | .error _ => .error (.badExpression s)
  | v => .error (.badExpression v.print)

end EventRules
