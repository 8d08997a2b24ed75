/-
The rational number that a finite binary floating-point number stands for. Reading it as an integer
loses nothing if it is one in the range that is read.
-/
import EventRules.Proofs.Binary.Comparison
import Mathlib.Algebra.Order.Field.Rat
import Mathlib.Tactic.NormNum

namespace EventRules.Binary

variable {F : Format} {negative : Bool} {m : Nat} {e : Int}

/-- The number that is meant, if it is finite. -/
def value? : Binary F → Option ℚ
  | .finite negative m e => some (signed negative m * 2 ^ e)
  | _ => none

/-- A whole number times a power of two, without fractions. -/
theorem eq_mul_two_pow {a k : Int} (h : (a : ℚ) * 2 ^ e = k) :
    a * 2 ^ e.toNat = k * 2 ^ (-e).toNat := by
  have split : (2 : ℚ) ^ e.toNat = 2 ^ e * 2 ^ (-e).toNat := by
    rw [← zpow_natCast, ← zpow_natCast, ← zpow_add₀ (by norm_num)]
    congr 1
    omega
  have scaled : (a : ℚ) * 2 ^ e.toNat = k * 2 ^ (-e).toNat := by rw [split, ← mul_assoc, h]
  exact_mod_cast scaled

/-- The integer part of a whole number is that number. -/
theorem truncated_of_whole {k : Int} (h : (signed negative m : ℚ) * 2 ^ e = k) :
    truncated negative m e = k := by
  rw [truncated_eq_tdiv, eq_mul_two_pow h]
  exact Int.mul_tdiv_cancel _ (pow_ne_zero _ (by decide))

/-- A number that is an integer in the range is read as that integer. -/
theorem saturate_of_value {x : Binary F} {k low high : Int} (h : x.value? = some (k : ℚ))
    (above : low ≤ k) (below : k ≤ high) : saturate low high truncated x = k := by
  cases x with
  | finite negative m e =>
    rw [saturate, truncated_of_whole (Option.some.inj h), clamp, if_neg (by omega),
      if_neg (by omega)]
  | _ => cases h

theorem toInt32_of_value {x : Binary F} {n : Int32} (h : x.value? = some (n.toInt : ℚ)) :
    x.toInt32 = n := by
  have low := n.le_toInt
  have high := n.toInt_lt
  rw [toInt32, saturate_of_value h (by omega) (by omega), Int32.ofInt_toInt]

theorem toInt64_of_value {x : Binary F} {n : Int64} (h : x.value? = some (n.toInt : ℚ)) :
    x.toInt64 = n := by
  have low := n.le_toInt
  have high := n.toInt_lt
  rw [toInt64, saturate_of_value h (by omega) (by omega), Int64.ofInt_toInt]

end EventRules.Binary
