/-
Numbers as range expressions. A number always stands for equality with some integer of 64 bits, and
it is equality with the number itself exactly if the number is such an integer, however it is
written. Of a fraction it is equality with the integer part instead, and of what lies beyond 64 bits
with the end of the range.
-/
import EventRules.Json.Reader
import EventRules.Specifier.RangeJson
import EventRules.Proofs.Binary.Value
import EventRules.Proofs.Specifier.Number

namespace EventRules

/-- The rational number that a number of JSON stands for. -/
def Number.value? : Number → Option ℚ
  | .integer n => some n
  | .float x => x.value?

namespace RangeExpr

theorem test_equal_iff {n v : Int64} : (equal n).test v = true ↔ v = n := decide_eq_true_iff

/-- A number stands for equality with an integer of 64 bits. -/
theorem exists_ofJson_number (x : Number) : ∃ n, ofJson (.number x) = .ok (.equal n) := by
  rw [ofJson]
  rcases x.int64? with _ | n
  · exact ⟨_, rfl⟩
  · exact ⟨n, rfl⟩

/-- A number that is an integer of 64 bits stands for equality with it. -/
theorem ofJson_number_of_value {x : Number} {n : Int64} (h : x.value? = some (n.toInt : ℚ)) :
    ofJson (.number x) = .ok (.equal n) := by
  rw [ofJson]
  cases x with
  | integer k =>
    have same : k = n.toInt := by exact_mod_cast Option.some.inj h
    have whole : (Number.integer k).int64? = some n := Decimal.int64?_eq_some_iff.2 same
    rw [whole]
  | float x => exact congrArg (Except.ok ∘ equal) (Binary.toInt64_of_value h)

/-- A number can be read as a range expression, and the expression is equality with the number
exactly if the number is an integer of 64 bits. -/
theorem number_is_equality_iff (x : Number) :
    ∃ expr, ofJson (.number x) = .ok expr ∧
      ((∀ v : Int64, expr.test v = true ↔ x.value? = some (v.toInt : ℚ)) ↔
        ∃ n : Int64, x.value? = some (n.toInt : ℚ)) := by
  obtain ⟨n, read⟩ := exists_ofJson_number x
  refine ⟨_, read, ?_⟩
  constructor
  · intro equality
    exact ⟨n, (equality n).1 (test_equal_iff.2 rfl)⟩
  · rintro ⟨k, whole⟩ v
    cases read.symm.trans (ofJson_number_of_value whole)
    rw [test_equal_iff, whole, Option.some.injEq, Int.cast_inj, Int64.toInt_inj, eq_comm]

/-- Two and a half is read as equality with two. -/
theorem fraction_equals_integer_part :
    ∃ x, Json.parse "2.5" = some (.number x) ∧ x.value? = some (5 / 2) ∧
      ofJson (.number x) = .ok (.equal 2) ∧ (equal 2).test 2 = true := by
  refine ⟨.float (.finite false 5629499534213120 (-51)), rfl, ?_, rfl, rfl⟩
  show some (((5629499534213120 : Int) : ℚ) * 2 ^ (-51 : Int)) = some (5 / 2)
  norm_num

end RangeExpr

end EventRules
