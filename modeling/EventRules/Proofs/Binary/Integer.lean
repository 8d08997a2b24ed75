/-
Integers in a binary format. An integer with no more bits than a significand has is met exactly: its
leading bit goes to the first place of the significand, or nearer if the exponent ends before, and
nothing is left to round.
-/
import EventRules.Proofs.Binary.Number
import EventRules.Proofs.Binary.Value

namespace EventRules

theorem nearestQuotient_one (num : Nat) : nearestQuotient num 1 = num :=
  le_antisymm (nearestQuotient_le Nat.one_pos (Nat.one_mul num).ge)
    (le_nearestQuotient Nat.one_pos (Nat.one_mul num).le)

theorem leadingExponent_one {num : Nat} (num_ne : num ≠ 0) :
    leadingExponent num 1 = num.log2 := by
  have reached : reachesPower num.log2 num 1 = true := by
    rw [reachesPower_iff, Reached]
    simpa using Nat.log2_self_le num_ne
  have one : Nat.log2 1 = 0 := by decide
  simp only [leadingExponent, one, Nat.cast_zero, sub_zero, reached, if_pos]

namespace Binary

variable {F : Format}

theorem ofSignificand_of_lt (negative : Bool) {m : Nat} {e : Int} (small : m < 2 ^ F.precision)
    (le : e ≤ F.maxExp) : (ofSignificand negative m e : Binary F) = .finite negative m e := by
  have kept : (m == 1 <<< F.precision) = false := by simp [Nat.one_shiftLeft, small.ne]
  simp only [ofSignificand, kept, if_neg Bool.false_ne_true, if_neg (Int.not_lt.2 le)]

/-- A natural number that a significand holds is shifted as far as there is room. -/
theorem exists_ofRatio_one (negative : Bool) {num : Nat} (num_ne : num ≠ 0)
    (small : num < 2 ^ F.precision) (lowest : F.minExp ≤ 0) (highest : 0 ≤ F.maxExp) :
    ∃ k : Nat, (ofRatio negative num 1 : Binary F) = .finite negative (num * 2 ^ k) (-k) := by
  have bits : num.log2 < F.precision := (Nat.log2_lt num_ne).2 small
  obtain ⟨k, exponent, room⟩ : ∃ k : Nat, lastExponent F num 1 = -k ∧
      num.log2 + 1 + k ≤ F.precision := by
    refine ⟨(-lastExponent F num 1).toNat, ?_, ?_⟩
    · rw [lastExponent, leadingExponent_one num_ne]
      omega
    · rw [lastExponent, leadingExponent_one num_ne]
      omega
  have shifted : num * 2 ^ k < 2 ^ F.precision := by
    calc num * 2 ^ k < 2 ^ (num.log2 + 1) * 2 ^ k :=
          Nat.mul_lt_mul_of_pos_right Nat.lt_log2_self (pow_pos (by decide) k)
      _ = 2 ^ (num.log2 + 1 + k) := (pow_add 2 _ _).symm
      _ ≤ 2 ^ F.precision := Nat.pow_le_pow_right (by decide) room
  refine ⟨k, ?_⟩
  rw [ofRatio_eq negative num_ne, exponent]
  simp only [neg_neg, Int.toNat_natCast, Int.toNat_neg_natCast, pow_zero, mul_one,
    nearestQuotient_one]
  exact ofSignificand_of_lt negative shifted (by omega)

theorem signed_natAbs (n : Int) : signed (n < 0) n.natAbs = n := by
  unfold signed
  split
  · rename_i h
    have negative : n < 0 := of_decide_eq_true h
    omega
  · rename_i h
    have positive : ¬ n < 0 := of_decide_eq_false (Bool.not_eq_true _ ▸ h)
    omega

theorem signed_mul (negative : Bool) (m k : Nat) :
    signed negative (m * k) = signed negative m * k := by
  cases negative <;> simp [signed]

/-- An integer that a significand holds is met exactly. -/
theorem value?_ofInt {n : Int} (small : n.natAbs < 2 ^ F.precision) (lowest : F.minExp ≤ 0)
    (highest : 0 ≤ F.maxExp) : (ofInt n : Binary F).value? = some (n : ℚ) := by
  rcases eq_or_ne n 0 with rfl | n_ne
  · simp [ofInt, ofRatio, zero, value?, signed]
  · obtain ⟨k, rounded⟩ :=
      exists_ofRatio_one (n < 0) (Int.natAbs_ne_zero.2 n_ne) small lowest highest
    rw [ofInt, rounded, value?, signed_mul, signed_natAbs]
    push_cast
    rw [zpow_neg, zpow_natCast, mul_assoc, mul_inv_cancel₀ (by positivity), mul_one]

end Binary

end EventRules
