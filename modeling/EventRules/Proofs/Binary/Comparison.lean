/-
Equality of binary floating-point numbers as numbers. It does not tell apart the pairs of a
significand and an exponent that stand for the same number, nor the two zeros; neither does reading
a number as an integer, since both depend on the number alone.
-/
import EventRules.Binary.Arithmetic
import Mathlib.Algebra.Order.Ring.Int
import Mathlib.Tactic.Ring

namespace EventRules.Binary

variable {F : Format} {negative negative' : Bool} {m m' : Nat} {e e' : Int}

/-! ## Equal numbers -/

theorem same_self_iff {x : Binary F} : x.same x = true ↔ x ≠ .nan := by
  cases x with
  | nan => exact iff_of_false (by simp [same, order?]) (fun h => h rfl)
  | infinite negative => exact iff_of_true (by simp [same, order?]) (by simp)
  | finite negative m e => exact iff_of_true (by simp [same, order?, aligned]) (by simp)

/-- Equal finite numbers agree over the smaller of their exponents. -/
theorem signed_of_same
    (h : (finite negative m e : Binary F).same (.finite negative' m' e') = true) :
    signed negative m * 2 ^ (e - min e e').toNat =
      signed negative' m' * 2 ^ (e' - min e e').toNat := by
  have agree : (aligned (signed negative m) e (signed negative' m') e').1 =
      (aligned (signed negative m) e (signed negative' m') e').2.1 := by
    simp only [same, order?, beq_iff_eq, Option.some.injEq] at h
    split at h
    · cases h
    · split at h
      · assumption
      · cases h
  unfold aligned at agree
  split at agree
  · rename_i le
    rw [min_eq_left le, sub_self, Int.toNat_zero, pow_zero, mul_one]
    simpa [Nat.one_shiftLeft] using agree
  · rename_i lt
    rw [min_eq_right (by omega), sub_self, Int.toNat_zero, pow_zero, mul_one]
    simpa [Nat.one_shiftLeft] using agree

/-! ## Integer parts -/

/-- The integer part is a quotient of integers, rounded toward zero. -/
theorem truncated_eq_tdiv (negative : Bool) (m : Nat) (e : Int) :
    truncated negative m e = (signed negative m * 2 ^ e.toNat).tdiv (2 ^ (-e).toNat) := by
  have magnitude : ((if 0 ≤ e then m <<< e.toNat else m >>> (-e).toNat : Nat) : Int) =
      ((m : Int) * 2 ^ e.toNat).tdiv (2 ^ (-e).toNat) := by
    split
    · rename_i whole
      have none : (-e).toNat = 0 := by omega
      rw [none, pow_zero, Int.tdiv_one, Nat.shiftLeft_eq]
      push_cast
      rfl
    · rename_i fraction
      have none : e.toNat = 0 := by omega
      rw [none, pow_zero, mul_one, Nat.shiftRight_eq_div_pow]
      push_cast
      rfl
  unfold truncated signed
  cases negative with
  | false => exact magnitude
  | true =>
    simp only [if_true]
    rw [magnitude, neg_mul, Int.neg_tdiv]

/-- The integer part by way of any smaller exponent. -/
theorem truncated_eq_tdiv_of_le {k : Int} (le : k ≤ e) :
    truncated negative m e =
      (signed negative m * 2 ^ (e - k).toNat * 2 ^ k.toNat).tdiv (2 ^ (-k).toNat) := by
  obtain ⟨j, below⟩ : ∃ j, (-k).toNat = (-e).toNat + j :=
    Nat.exists_eq_add_of_le (by omega)
  have above : (e - k).toNat + k.toNat = e.toNat + j := by omega
  rw [truncated_eq_tdiv, mul_assoc, ← pow_add, above, below, pow_add, pow_add, ← mul_assoc,
    Int.mul_tdiv_mul_of_pos_left _ _ (pow_pos (by decide) _)]

theorem truncated_of_same
    (h : (finite negative m e : Binary F).same (.finite negative' m' e') = true) :
    truncated negative m e = truncated negative' m' e' := by
  rw [truncated_eq_tdiv_of_le (min_le_left e e'), truncated_eq_tdiv_of_le (min_le_right e e'),
    signed_of_same h]

/-- Equal numbers are read as the same integer. -/
theorem toInt32_of_same {x y : Binary F} (h : x.same y = true) : x.toInt32 = y.toInt32 := by
  cases x with
  | nan => cases h
  | infinite negative =>
    cases y with
    | nan => cases h
    | infinite negative' => cases negative <;> cases negative' <;> cases h <;> rfl
    | finite negative' m' e' => cases negative <;> cases h
  | finite negative m e =>
    cases y with
    | nan => cases h
    | infinite negative' => cases negative' <;> cases h
    | finite negative' m' e' => simp only [toInt32, saturate, truncated_of_same h]

end EventRules.Binary
