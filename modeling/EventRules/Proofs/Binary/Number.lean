/-
Which operations lead to a number. Rounding always does, and to one that is neither zero nor
infinite if the quotient is at least one and does not pass the greatest number of the format. A
product or a quotient with such a number as the second operand is a number, whatever number the
first one is.
-/
import EventRules.Binary.Arithmetic
import Mathlib.Algebra.Order.Ring.Int
import Mathlib.Tactic.Ring
import Mathlib.Tactic.Positivity.Basic
import Mathlib.Tactic.SplitIfs

namespace EventRules

/-! ## The nearest quotient -/

section Quotient

variable {num den : Nat}

/-- Rounding stays between natural numbers that the quotient lies between. -/
theorem le_nearestQuotient {low : Nat} (pos : 0 < den) (h : den * low ≤ num) :
    low ≤ nearestQuotient num den := by
  have whole : low ≤ num / den := (Nat.le_div_iff_mul_le pos).2 (by rwa [Nat.mul_comm])
  unfold nearestQuotient
  dsimp only
  split_ifs <;> omega

theorem nearestQuotient_le {high : Nat} (pos : 0 < den) (h : num ≤ den * high) :
    nearestQuotient num den ≤ high := by
  have whole : num / den ≤ high := Nat.div_le_of_le_mul h
  have rest : num % den ≠ 0 → num / den < high := by
    intro rest
    refine Nat.div_lt_of_lt_mul (lt_of_le_of_ne h ?_)
    rintro rfl
    exact rest (Nat.mul_mod_right _ _)
  unfold nearestQuotient
  dsimp only
  split_ifs <;> omega

/-! ## The leading bit -/

/-- `2 ^ t ≤ num / den`, without fractions. -/
def Reached (t : Int) (num den : Nat) : Prop := den * 2 ^ t.toNat ≤ num * 2 ^ (-t).toNat

theorem reachesPower_iff {t : Int} : reachesPower t num den = true ↔ Reached t num den := by
  unfold reachesPower Reached
  split
  · rename_i up
    have none : (-t).toNat = 0 := by omega
    rw [none, decide_eq_true_iff, Nat.shiftLeft_eq, pow_zero, mul_one]
  · rename_i down
    have none : t.toNat = 0 := by omega
    rw [none, decide_eq_true_iff, Nat.shiftLeft_eq, pow_zero, mul_one]

theorem Reached.mono {t e : Int} (h : Reached t num den) (le : e ≤ t) : Reached e num den := by
  obtain ⟨j, exponents⟩ : ∃ j, t.toNat + (-e).toNat = (-t).toNat + (e.toNat + j) :=
    ⟨(t - e).toNat, by omega⟩
  have scaled : (2 ^ (-t).toNat) * (den * 2 ^ (e.toNat + j)) ≤
      (2 ^ (-t).toNat) * (num * 2 ^ (-e).toNat) := by
    calc (2 ^ (-t).toNat) * (den * 2 ^ (e.toNat + j))
        = den * 2 ^ t.toNat * 2 ^ (-e).toNat := by
          rw [mul_assoc, ← pow_add, exponents, pow_add]
          ring
      _ ≤ num * 2 ^ (-t).toNat * 2 ^ (-e).toNat := Nat.mul_le_mul_right _ h
      _ = (2 ^ (-t).toNat) * (num * 2 ^ (-e).toNat) := by ring
  have unscaled := Nat.le_of_mul_le_mul_left scaled (pow_pos (by decide) _)
  calc den * 2 ^ e.toNat ≤ den * 2 ^ (e.toNat + j) :=
        Nat.mul_le_mul_left _ (Nat.pow_le_pow_right (by decide) (Nat.le_add_right _ _))
    _ ≤ num * 2 ^ (-e).toNat := unscaled

/-- The difference of the lengths misses the leading bit by at most one. -/
theorem reached_log2 (num_ne : num ≠ 0) :
    Reached ((num.log2 : Int) - (den.log2 : Int) - 1) num den := by
  have above : den ≤ 2 ^ (den.log2 + 1) := Nat.lt_log2_self.le
  have below : 2 ^ num.log2 ≤ num := Nat.log2_self_le num_ne
  generalize num.log2 = a at *
  generalize den.log2 = b at *
  unfold Reached
  generalize ht : (a : Int) - (b : Int) - 1 = t
  calc den * 2 ^ t.toNat ≤ 2 ^ (b + 1) * 2 ^ t.toNat := Nat.mul_le_mul_right _ above
    _ = 2 ^ a * 2 ^ (-t).toNat := by rw [← pow_add, ← pow_add, show b + 1 + t.toNat =
        a + (-t).toNat by omega]
    _ ≤ num * 2 ^ (-t).toNat := Nat.mul_le_mul_right _ below

theorem reached_leadingExponent (num_ne : num ≠ 0) :
    Reached (leadingExponent num den) num den := by
  unfold leadingExponent
  dsimp only
  split
  · rename_i reached
    exact reachesPower_iff.1 reached
  · exact reached_log2 num_ne

end Quotient

namespace Binary

variable {F : Format} {x : Binary F}

/-! ## Rounding -/

theorem ofSignificand_ne_nan (negative : Bool) (m : Nat) (e : Int) :
    (ofSignificand negative m e : Binary F) ≠ .nan := by
  unfold ofSignificand
  dsimp only
  split_ifs <;> simp

theorem ofRatio_ne_nan (negative : Bool) (num den : Nat) :
    (ofRatio negative num den : Binary F) ≠ .nan := by
  unfold ofRatio
  dsimp only
  split_ifs
  · simp [zero]
  all_goals exact ofSignificand_ne_nan _ _ _

theorem ofScaled_ne_nan (negative : Bool) (m : Nat) (e : Int) :
    (ofScaled negative m e : Binary F) ≠ .nan := by
  unfold ofScaled
  split
  · exact ofRatio_ne_nan _ _ _
  · exact ofRatio_ne_nan _ _ _

/-- A finite number other than zero. -/
def NonZero (x : Binary F) : Prop := ∃ negative m e, x = .finite negative m e ∧ m ≠ 0

/-- The exponent of the last bit of a rounded quotient. -/
def lastExponent (F : Format) (num den : Nat) : Int :=
  max (leadingExponent num den - ((F.precision : Int) - 1)) F.minExp

theorem ofRatio_eq (negative : Bool) {num : Nat} (num_ne : num ≠ 0) (den : Nat) :
    (ofRatio negative num den : Binary F) =
      let e := lastExponent F num den
      ofSignificand negative (nearestQuotient (num * 2 ^ (-e).toNat) (den * 2 ^ e.toNat)) e := by
  have exponent : (if leadingExponent num den - ((F.precision : Int) - 1) < F.minExp then F.minExp
      else leadingExponent num den - ((F.precision : Int) - 1)) = lastExponent F num den := by
    unfold lastExponent
    split_ifs <;> omega
  unfold ofRatio
  rw [if_neg num_ne]
  dsimp only
  rw [exponent]
  split
  · rename_i up
    rw [show (-lastExponent F num den).toNat = 0 by omega, pow_zero, mul_one, Nat.shiftLeft_eq]
  · rename_i down
    rw [show (lastExponent F num den).toNat = 0 by omega, pow_zero, mul_one, Nat.shiftLeft_eq]

theorem nonZero_ofSignificand {negative : Bool} {m : Nat} {e : Int} (precise : 0 < F.precision)
    (m_ne : m ≠ 0) (le : e ≤ F.maxExp) (carried : m = 2 ^ F.precision → e < F.maxExp) :
    NonZero (ofSignificand negative m e : Binary F) := by
  unfold ofSignificand
  dsimp only
  by_cases carry : m = 2 ^ F.precision
  · have shifted : (m == 1 <<< F.precision) = true := by simp [carry, Nat.one_shiftLeft]
    have half : m / 2 ≠ 0 := by
      obtain ⟨p, hp⟩ := Nat.exists_eq_succ_of_ne_zero precise.ne'
      rw [carry, hp, Nat.pow_succ, Nat.mul_div_cancel _ (by decide)]
      exact (pow_pos (by decide) p).ne'
    rw [if_pos shifted, if_pos shifted, if_neg (by have := carried carry; omega)]
    exact ⟨_, _, _, rfl, half⟩
  · have kept : (m == 1 <<< F.precision) = false := by simp [carry, Nat.one_shiftLeft]
    rw [kept, if_neg Bool.false_ne_true, if_neg Bool.false_ne_true, if_neg (by omega)]
    exact ⟨_, _, _, rfl, m_ne⟩

/-- A quotient from one up to the greatest number of the format is rounded to a number of the format
that is neither zero nor infinite. -/
theorem nonZero_ofRatio {negative : Bool} {num den : Nat} (precise : 0 < F.precision)
    (lowest : F.minExp ≤ 0) (highest : 0 ≤ F.maxExp) (den_ne : den ≠ 0) (low : den ≤ num)
    (high : num ≤ den * ((2 ^ F.precision - 1) * 2 ^ F.maxExp.toNat)) :
    NonZero (ofRatio negative num den : Binary F) := by
  have num_ne : num ≠ 0 := by omega
  have leading : Reached (leadingExponent num den) num den := reached_leadingExponent num_ne
  have high' : num ≤ den * 2 ^ F.maxExp.toNat * (2 ^ F.precision - 1) := by
    rwa [mul_assoc, Nat.mul_comm (2 ^ _)]
  rw [ofRatio_eq negative num_ne den]
  generalize he : lastExponent F num den = e
  have either : e = leadingExponent num den - ((F.precision : Int) - 1) ∨ e = F.minExp := by
    unfold lastExponent at he
    omega
  have reached : Reached e num den := by
    rcases either with fitting | least
    · exact leading.mono (by omega)
    · exact Reached.mono (t := 0) (by simpa [Reached] using low) (by omega)
  have below : e ≤ F.maxExp := by
    rcases either with fitting | least
    · by_contra beyond
      -- the quotient would have one bit more than the greatest number
      have h : den * 2 ^ F.maxExp.toNat * 2 ^ F.precision ≤ num := by
        have h : Reached ((F.precision : Int) + F.maxExp) num den := leading.mono (by omega)
        unfold Reached at h
        rwa [show (-((F.precision : Int) + F.maxExp)).toNat = 0 by omega, pow_zero, mul_one,
          show ((F.precision : Int) + F.maxExp).toNat = F.maxExp.toNat + F.precision by omega,
          pow_add, ← mul_assoc] at h
      have pos : 0 < den * 2 ^ F.maxExp.toNat := by positivity
      have := Nat.le_of_mul_le_mul_left (h.trans high') pos
      have : 0 < 2 ^ F.precision := by positivity
      omega
    · omega
  have pos : 0 < den * 2 ^ e.toNat := by positivity
  refine nonZero_ofSignificand precise ?_ below fun carry => ?_
  · have : 1 ≤ nearestQuotient (num * 2 ^ (-e).toNat) (den * 2 ^ e.toNat) :=
      le_nearestQuotient pos (by rwa [Nat.mul_one])
    omega
  · refine lt_of_le_of_ne below fun greatest => ?_
    subst greatest
    rw [show (-F.maxExp).toNat = 0 by omega, pow_zero, mul_one] at carry
    have := nearestQuotient_le pos high'
    have : 0 < 2 ^ F.precision := by positivity
    omega

/-! ## Operations -/

theorem neg_ne_nan (h : x ≠ .nan) : -x ≠ .nan := by
  cases x with
  | nan => exact absurd rfl h
  | infinite negative => nofun
  | finite negative m e => nofun

theorem mul_ne_nan {y : Binary F} (h : x ≠ .nan) (hy : NonZero y) : x * y ≠ .nan := by
  obtain ⟨negative, m, e, rfl, nonzero⟩ := hy
  show mul _ _ ≠ .nan
  cases x with
  | nan => exact absurd rfl h
  | infinite => simp [mul, nonzero]
  | finite => exact ofScaled_ne_nan _ _ _

theorem div_ne_nan {y : Binary F} (h : x ≠ .nan) (hy : NonZero y) : x / y ≠ .nan := by
  obtain ⟨negative, m, e, rfl, nonzero⟩ := hy
  show div _ _ ≠ .nan
  cases x with
  | nan => exact absurd rfl h
  | infinite => nofun
  | finite negative' m' e' =>
    simp only [div, if_neg nonzero]
    split
    · exact ofRatio_ne_nan _ _ _
    · exact ofRatio_ne_nan _ _ _

end Binary

end EventRules
