/-
Rounding to a binary format keeps the order. The rounded number of a rational one is never beyond a
number that the format holds: what such a number bounds, it still bounds after rounding. So what the
format holds is met exactly, and what lies between numbers of the format is rounded to a finite
number.
-/
import EventRules.Proofs.Binary.Integer
import Mathlib.Algebra.Order.Field.Basic
import Mathlib.Algebra.Order.Field.Power
import Mathlib.Tactic.GCongr
import Mathlib.Tactic.Linarith

namespace EventRules

/-- A format with at least one bit and one exponent. -/
class Format.Sound (F : Format) : Prop where
  precise : 0 < F.precision
  reach : F.minExp ≤ F.maxExp

instance : Format.single.Sound := ⟨by decide, by decide⟩

instance : Format.double.Sound := ⟨by decide, by decide⟩

/-- The rational numbers that a format can stand for. -/
def Format.Holds (F : Format) (v : ℚ) : Prop :=
  ∃ m e : ℤ, m.natAbs < 2 ^ F.precision ∧ F.minExp ≤ e ∧ e ≤ F.maxExp ∧ v = m * 2 ^ e

/-! ## Powers of two around a quotient -/

section Quotient

variable {num den c : ℕ} {e t : ℤ}

theorem two_zpow_split (e : ℤ) : (2 : ℚ) ^ e * 2 ^ (-e).toNat = 2 ^ e.toNat := by
  rw [← zpow_natCast, ← zpow_natCast, ← zpow_add₀ (by norm_num)]
  congr 1
  omega

theorem scaled_eq (c den : ℕ) (e : ℤ) :
    (c : ℚ) * 2 ^ e * den * 2 ^ (-e).toNat = (den * 2 ^ e.toNat * c : ℕ) := by
  push_cast
  rw [← two_zpow_split e]
  ring

theorem mul_two_zpow_le_iff (pos : 0 < den) :
    (c : ℚ) * 2 ^ e ≤ num / den ↔ den * 2 ^ e.toNat * c ≤ num * 2 ^ (-e).toNat := by
  have den_pos : (0 : ℚ) < den := by exact_mod_cast pos
  rw [le_div_iff₀ den_pos, ← mul_le_mul_iff_of_pos_right (pow_pos two_pos (-e).toNat), scaled_eq]
  exact_mod_cast Iff.rfl

theorem le_mul_two_zpow_iff (pos : 0 < den) :
    (num / den : ℚ) ≤ c * 2 ^ e ↔ num * 2 ^ (-e).toNat ≤ den * 2 ^ e.toNat * c := by
  have den_pos : (0 : ℚ) < den := by exact_mod_cast pos
  rw [div_le_iff₀ den_pos, ← mul_le_mul_iff_of_pos_right (pow_pos two_pos (-e).toNat), scaled_eq]
  exact_mod_cast Iff.rfl

theorem reached_iff (pos : 0 < den) : Reached t num den ↔ (2 : ℚ) ^ t ≤ num / den := by
  have one : (2 : ℚ) ^ t ≤ num / den ↔ ((1 : ℕ) : ℚ) * 2 ^ t ≤ num / den := by simp
  rw [one, mul_two_zpow_le_iff pos, mul_one, Reached]

theorem two_zpow_leadingExponent_le (pos : 0 < den) (num_ne : num ≠ 0) :
    (2 : ℚ) ^ leadingExponent num den ≤ num / den :=
  (reached_iff pos).1 (reached_leadingExponent num_ne)

theorem lt_two_zpow_leadingExponent (pos : 0 < den) :
    (num / den : ℚ) < 2 ^ (leadingExponent num den + 1) := by
  have den_pos : (0 : ℚ) < den := by exact_mod_cast pos
  unfold leadingExponent
  dsimp only
  split
  · -- one bit more than the difference of the lengths is out of reach
    have below : (num : ℚ) < 2 ^ (num.log2 + 1) := by exact_mod_cast Nat.lt_log2_self
    have above : (2 : ℚ) ^ den.log2 ≤ den := by exact_mod_cast Nat.log2_self_le (by omega)
    rw [div_lt_iff₀ den_pos]
    calc (num : ℚ) < 2 ^ (num.log2 + 1) := below
      _ = 2 ^ ((num.log2 : ℤ) - den.log2 + 1) * 2 ^ den.log2 := by
          rw [← zpow_natCast, ← zpow_natCast, ← zpow_add₀ (by norm_num)]
          congr 1
          push_cast
          ring
      _ ≤ 2 ^ ((num.log2 : ℤ) - den.log2 + 1) * den := by gcongr
  · rename_i short
    rw [reachesPower_iff, reached_iff pos, not_le] at short
    rwa [sub_add_cancel]

end Quotient

namespace Binary

variable {F : Format}

/-! ## Magnitudes -/

/-- The significand of a rounded quotient, before a carry. -/
def roundedQuotient (F : Format) (num den : ℕ) : ℕ :=
  let e := lastExponent F num den
  nearestQuotient (num * 2 ^ (-e).toNat) (den * 2 ^ e.toNat)

section Magnitude

variable {num den m : ℕ} {k : ℤ}

theorem le_roundedQuotient (pos : 0 < den) {c : ℕ}
    (h : (c : ℚ) * 2 ^ lastExponent F num den ≤ num / den) : c ≤ roundedQuotient F num den :=
  le_nearestQuotient (by positivity) ((mul_two_zpow_le_iff pos).1 h)

theorem roundedQuotient_le (pos : 0 < den) {c : ℕ}
    (h : (num / den : ℚ) ≤ c * 2 ^ lastExponent F num den) : roundedQuotient F num den ≤ c :=
  nearestQuotient_le (by positivity) ((le_mul_two_zpow_iff pos).1 h)

/-- A number with a small exponent that the format holds lies below the leading bit. -/
theorem lt_two_zpow_of_exponent (small : m < 2 ^ F.precision) (lowest : F.minExp ≤ k)
    (lt : k < lastExponent F num den) : (m : ℚ) * 2 ^ k < 2 ^ leadingExponent num den := by
  have leading : k + F.precision ≤ leadingExponent num den := by
    unfold lastExponent at lt
    omega
  have m_lt : (m : ℚ) < 2 ^ F.precision := by exact_mod_cast small
  calc (m : ℚ) * 2 ^ k < 2 ^ F.precision * 2 ^ k := by gcongr
    _ = 2 ^ (k + F.precision) := by
        rw [← zpow_natCast, ← zpow_add₀ (by norm_num), add_comm]
    _ ≤ 2 ^ leadingExponent num den := zpow_le_zpow_right₀ (by norm_num) leading

/-- A number with a great exponent is a multiple of the last bit. -/
theorem eq_mul_two_zpow_of_le {e : ℤ} (le : e ≤ k) :
    (m : ℚ) * 2 ^ k = (m * 2 ^ (k - e).toNat : ℕ) * 2 ^ e := by
  push_cast
  rw [mul_assoc, ← zpow_natCast, ← zpow_add₀ (by norm_num)]
  congr 2
  omega

/-- The size of a rounded quotient. -/
def magnitude (F : Format) (num den : ℕ) : ℚ :=
  roundedQuotient F num den * 2 ^ lastExponent F num den

theorem mul_two_zpow_le_magnitude [F.Sound] (pos : 0 < den) (num_ne : num ≠ 0)
    (small : m < 2 ^ F.precision) (lowest : F.minExp ≤ k) (h : (m : ℚ) * 2 ^ k ≤ num / den) :
    (m : ℚ) * 2 ^ k ≤ magnitude F num den := by
  have precise := Format.Sound.precise (F := F)
  unfold magnitude
  by_cases le : lastExponent F num den ≤ k
  · rw [eq_mul_two_zpow_of_le le] at h ⊢
    have whole := le_roundedQuotient pos h
    gcongr
  · -- then the leading bit lies between, and it is a multiple of the last bit
    have lt := lt_two_zpow_of_exponent small lowest (not_le.1 le)
    have leading : leadingExponent num den = lastExponent F num den + (F.precision - 1 : ℕ) := by
      unfold lastExponent at le ⊢
      omega
    have reached := two_zpow_leadingExponent_le pos num_ne
    have multiple : (2 : ℚ) ^ leadingExponent num den =
        ((2 ^ (F.precision - 1) : ℕ) : ℚ) * 2 ^ lastExponent F num den := by
      rw [leading, zpow_add₀ (by norm_num), zpow_natCast]
      push_cast
      ring
    rw [multiple] at reached lt
    have bit := le_roundedQuotient pos reached
    calc (m : ℚ) * 2 ^ k ≤ (2 ^ (F.precision - 1) : ℕ) * 2 ^ lastExponent F num den := lt.le
      _ ≤ roundedQuotient F num den * 2 ^ lastExponent F num den := by gcongr

theorem magnitude_le_mul_two_zpow (pos : 0 < den) (num_ne : num ≠ 0)
    (small : m < 2 ^ F.precision) (lowest : F.minExp ≤ k) (h : (num / den : ℚ) ≤ m * 2 ^ k) :
    magnitude F num den ≤ (m : ℚ) * 2 ^ k := by
  unfold magnitude
  by_cases le : lastExponent F num den ≤ k
  · rw [eq_mul_two_zpow_of_le le] at h ⊢
    have whole := roundedQuotient_le pos h
    gcongr
  · have lt := lt_two_zpow_of_exponent small lowest (not_le.1 le)
    have reached := two_zpow_leadingExponent_le pos num_ne
    linarith

theorem roundedQuotient_le_two_pow (pos : 0 < den) :
    roundedQuotient F num den ≤ 2 ^ F.precision := by
  refine roundedQuotient_le pos ?_
  calc (num / den : ℚ) ≤ 2 ^ (leadingExponent num den + 1) := (lt_two_zpow_leadingExponent pos).le
    _ ≤ 2 ^ (F.precision + lastExponent F num den) :=
        zpow_le_zpow_right₀ (by norm_num) (by unfold lastExponent; omega)
    _ = (2 ^ F.precision : ℕ) * 2 ^ lastExponent F num den := by
        rw [zpow_add₀ (by norm_num), zpow_natCast]
        push_cast
        rfl

theorem magnitude_zero (pos : 0 < den) : magnitude F 0 den = 0 := by
  have zero : roundedQuotient F 0 den = 0 := Nat.le_zero.1 (roundedQuotient_le pos (by simp))
  rw [magnitude, zero, Nat.cast_zero, zero_mul]

theorem magnitude_nonneg (num den : ℕ) : 0 ≤ magnitude F num den := by
  unfold magnitude
  positivity

end Magnitude

end Binary

namespace Format.Holds

variable {F : Format} {y : ℚ} {num den : ℕ}

theorem neg (h : F.Holds y) : F.Holds (-y) := by
  obtain ⟨m, e, small, lowest, highest, rfl⟩ := h
  exact ⟨-m, e, by rwa [Int.natAbs_neg], lowest, highest, by push_cast; ring⟩

/-- What is held and not negative is a natural number times a power of two. -/
theorem exists_nat (h : F.Holds y) (nonneg : 0 ≤ y) : ∃ (m : ℕ) (e : ℤ),
    m < 2 ^ F.precision ∧ F.minExp ≤ e ∧ e ≤ F.maxExp ∧ y = m * 2 ^ e := by
  obtain ⟨m, e, small, lowest, highest, rfl⟩ := h
  have m_nonneg : 0 ≤ m := by
    have := nonneg_of_mul_nonneg_left nonneg (zpow_pos two_pos e)
    exact_mod_cast this
  refine ⟨m.natAbs, e, small, lowest, highest, ?_⟩
  rw [← Int.cast_natCast, Int.natAbs_of_nonneg m_nonneg]

theorem le_magnitude [F.Sound] (h : F.Holds y) (pos : 0 < den) (le : y ≤ num / den) :
    y ≤ Binary.magnitude F num den := by
  rcases le_total y 0 with negative | nonneg
  · exact negative.trans (Binary.magnitude_nonneg num den)
  · obtain ⟨m, e, small, lowest, -, rfl⟩ := h.exists_nat nonneg
    by_cases num_ne : num = 0
    · rw [num_ne, Binary.magnitude_zero pos]
      simpa [num_ne] using le
    · exact Binary.mul_two_zpow_le_magnitude pos num_ne small lowest le

theorem magnitude_le (h : F.Holds y) (pos : 0 < den) (le : (num / den : ℚ) ≤ y) :
    Binary.magnitude F num den ≤ y := by
  have nonneg : (0 : ℚ) ≤ num / den := by positivity
  obtain ⟨m, e, small, lowest, -, rfl⟩ := h.exists_nat (nonneg.trans le)
  by_cases num_ne : num = 0
  · rw [num_ne, Binary.magnitude_zero pos]
    positivity
  · exact Binary.magnitude_le_mul_two_zpow pos num_ne small lowest le

theorem lt_two_zpow (h : F.Holds y) : y < 2 ^ (F.precision + F.maxExp) := by
  obtain ⟨m, e, small, lowest, highest, rfl⟩ := h
  have m_lt : (m : ℚ) < 2 ^ F.precision := by
    have : m < 2 ^ F.precision := by
      have bound : (m.natAbs : ℤ) < 2 ^ F.precision := by exact_mod_cast small
      omega
    exact_mod_cast this
  calc (m : ℚ) * 2 ^ e < 2 ^ F.precision * 2 ^ e := by gcongr
    _ = 2 ^ (F.precision + e) := by rw [← zpow_natCast, ← zpow_add₀ (by norm_num)]
    _ ≤ 2 ^ (F.precision + F.maxExp) := zpow_le_zpow_right₀ (by norm_num) (by omega)

/-- What is held and not too small has a representation with all significand bits. -/
theorem exists_normal (h : F.Holds y) (large : 2 ^ (F.minExp + F.precision - 1) ≤ y) :
    ∃ (m : ℕ) (e : ℤ), 2 ^ F.precision ≤ 2 * m ∧ m < 2 ^ F.precision ∧ F.minExp ≤ e ∧
      e ≤ F.maxExp ∧ y = m * 2 ^ e := by
  have positive : 0 < y := (zpow_pos two_pos _).trans_le large
  obtain ⟨m, e, small, lowest, highest, rfl⟩ := h.exists_nat positive.le
  have m_ne : m ≠ 0 := by
    rintro rfl
    simp at positive
  have size : m.log2 < F.precision := (Nat.log2_lt m_ne).2 small
  obtain ⟨s, shift⟩ : ∃ s, F.precision = m.log2 + s + 1 := ⟨F.precision - m.log2 - 1, by omega⟩
  have least : 2 ^ m.log2 ≤ m := Nat.log2_self_le m_ne
  have most : m < 2 ^ (m.log2 + 1) := Nat.lt_log2_self
  -- the leading bit is at or above the least one that a full significand can have
  have room : F.minExp ≤ e - s := by
    have bits : (m : ℚ) < 2 ^ (m.log2 + 1) := by exact_mod_cast most
    have leading : (2 : ℚ) ^ (F.minExp + F.precision - 1) < 2 ^ ((m.log2 + 1 : ℕ) + e) :=
      calc (2 : ℚ) ^ (F.minExp + F.precision - 1) ≤ m * 2 ^ e := large
        _ < 2 ^ (m.log2 + 1) * 2 ^ e := by gcongr
        _ = 2 ^ ((m.log2 + 1 : ℕ) + e) := by
            rw [← zpow_natCast, ← zpow_add₀ (by norm_num)]
    rw [zpow_lt_zpow_iff_right₀ (one_lt_two (α := ℚ))] at leading
    omega
  refine ⟨m * 2 ^ s, e - s, ?_, ?_, room, by omega, ?_⟩
  · calc 2 ^ F.precision = 2 * (2 ^ m.log2 * 2 ^ s) := by rw [shift]; ring
      _ ≤ 2 * (m * 2 ^ s) := by gcongr
  · calc m * 2 ^ s < 2 ^ (m.log2 + 1) * 2 ^ s := by gcongr
      _ = 2 ^ F.precision := by rw [shift]; ring
  · rw [Binary.eq_mul_two_zpow_of_le (Int.sub_le_self e (Int.natCast_nonneg s)), sub_sub_cancel,
      Int.toNat_natCast]

/-- Below such a number there is another one, nearer than its last but one bit. -/
theorem exists_below (h : F.Holds y) (large : 2 ^ (F.minExp + F.precision - 1) ≤ y) :
    ∃ x, F.Holds x ∧ x < y ∧ 2 ^ F.precision * (y - x) ≤ 2 * y := by
  obtain ⟨m, e, full, small, lowest, highest, rfl⟩ := h.exists_normal large
  have m_pos : 1 ≤ m := by
    have : 0 < 2 ^ F.precision := by positivity
    omega
  have unit : (0 : ℚ) < 2 ^ e := zpow_pos two_pos e
  have bits : (2 : ℚ) ^ F.precision ≤ 2 * m := by exact_mod_cast full
  refine ⟨(m - 1 : ℕ) * 2 ^ e, ⟨(m - 1 : ℕ), e, ?_, lowest, highest, rfl⟩, ?_, ?_⟩
  · rw [Int.natAbs_natCast]
    omega
  · rw [Nat.cast_sub m_pos]
    push_cast
    linarith
  · rw [Nat.cast_sub m_pos]
    push_cast
    calc (2 : ℚ) ^ F.precision * (m * 2 ^ e - (m - 1) * 2 ^ e) = 2 ^ F.precision * 2 ^ e := by ring
      _ ≤ 2 * m * 2 ^ e := by gcongr
      _ = 2 * (m * 2 ^ e) := by ring

end Format.Holds

namespace Binary

variable {F : Format}

/-! ## Rounded numbers -/

/-- A finite number with a significand and an exponent that the format has room for. -/
def InFormat : Binary F → Prop
  | .finite _ m e => m < 2 ^ F.precision ∧ F.minExp ≤ e ∧ e ≤ F.maxExp
  | _ => True

theorem natAbs_signed (negative : Bool) (m : ℕ) : (signed negative m).natAbs = m := by
  cases negative <;> simp [signed]

theorem InFormat.holds {x : Binary F} {v : ℚ} (h : x.InFormat) (hv : x.value? = some v) :
    F.Holds v := by
  cases x with
  | finite negative m e =>
    cases hv
    exact ⟨signed negative m, e, by rw [natAbs_signed]; exact h.1, h.2.1, h.2.2, rfl⟩
  | _ => cases hv

theorem inFormat_zero [F.Sound] (negative : Bool) : (zero negative : Binary F).InFormat :=
  ⟨by positivity, le_refl _, Format.Sound.reach⟩

theorem value?_zero (negative : Bool) : (zero negative : Binary F).value? = some 0 := by
  cases negative <;> simp [zero, value?, signed]

section Significand

variable {negative : Bool} {m : ℕ} {e : ℤ} {v : ℚ}

theorem inFormat_ofSignificand [F.Sound] (le : m ≤ 2 ^ F.precision) (lowest : F.minExp ≤ e) :
    (ofSignificand negative m e : Binary F).InFormat := by
  unfold ofSignificand
  dsimp only
  rw [Nat.one_shiftLeft]
  by_cases carry : m = 2 ^ F.precision
  · have half : m / 2 < 2 ^ F.precision := by
      have : 0 < 2 ^ F.precision := by positivity
      omega
    simp only [carry, beq_self_eq_true, if_true] at half ⊢
    split
    · trivial
    · exact ⟨half, by omega, by omega⟩
  · have kept : (m == 2 ^ F.precision) = false := by simpa using carry
    rw [kept, if_neg Bool.false_ne_true, if_neg Bool.false_ne_true]
    split
    · trivial
    · exact ⟨by omega, by omega, by omega⟩

/-- A carry does not change the number, and otherwise nothing is changed. -/
theorem value?_ofSignificand [F.Sound]
    (h : (ofSignificand negative m e : Binary F).value? = some v) :
    v = signed negative m * 2 ^ e := by
  have precise := Format.Sound.precise (F := F)
  unfold ofSignificand at h
  dsimp only at h
  rw [Nat.one_shiftLeft] at h
  by_cases carry : m = 2 ^ F.precision
  · have carried : (m == 2 ^ F.precision) = true := by simpa using carry
    rw [carried, if_pos rfl, if_pos rfl] at h
    split at h
    · cases h
    · have even : m = m / 2 * 2 := by
        have divides : 2 ∣ m := carry ▸ dvd_pow_self 2 precise.ne'
        omega
      rw [value?, Option.some.injEq] at h
      rw [← h, even, signed_mul, Nat.mul_div_cancel _ two_pos, zpow_add_one₀ (by norm_num)]
      push_cast
      ring
  · have kept : (m == 2 ^ F.precision) = false := by simpa using carry
    rw [kept, if_neg Bool.false_ne_true, if_neg Bool.false_ne_true] at h
    split at h
    · cases h
    · exact (Option.some.inj h).symm

/-- A significand is finite if what it stands for is below the first number out of reach. -/
theorem exists_value?_ofSignificand (h : (m : ℚ) * 2 ^ e < 2 ^ (F.precision + F.maxExp))
    (within : e ≤ F.maxExp) : ∃ v, (ofSignificand negative m e : Binary F).value? = some v := by
  unfold ofSignificand
  dsimp only
  rw [Nat.one_shiftLeft]
  by_cases carry : m = 2 ^ F.precision
  · have below : e < F.maxExp := by
      refine lt_of_le_of_ne within fun last => ?_
      rw [carry, last, zpow_add₀ (by norm_num), zpow_natCast] at h
      push_cast at h
      exact lt_irrefl _ h
    have carried : (m == 2 ^ F.precision) = true := by simpa using carry
    rw [carried, if_pos rfl, if_pos rfl, if_neg (by omega)]
    exact ⟨_, rfl⟩
  · have kept : (m == 2 ^ F.precision) = false := by simpa using carry
    rw [kept, if_neg Bool.false_ne_true, if_neg Bool.false_ne_true, if_neg (by omega)]
    exact ⟨_, rfl⟩

end Significand

/-- `x` is what a rational number is rounded to. -/
inductive Rounds : ℚ → Binary F → Prop
  | ofRatio (negative : Bool) (num : ℕ) {den : ℕ} (pos : 0 < den) :
    Rounds (signed negative num / den) (.ofRatio negative num den)

namespace Rounds

variable [F.Sound] {q y v : ℚ} {x : Binary F}

theorem inFormat (h : Rounds q x) : x.InFormat := by
  obtain @⟨negative, num, den, pos⟩ := h
  by_cases num_ne : num = 0
  · rw [num_ne, Binary.ofRatio, if_pos rfl]
    exact inFormat_zero negative
  · rw [ofRatio_eq negative num_ne]
    exact inFormat_ofSignificand (roundedQuotient_le_two_pow pos) (le_max_right _ _)

/-- A rounded number is the rounded magnitude with the sign. -/
theorem exists_magnitude (h : Rounds q x) (hv : x.value? = some v) :
    ∃ num den : ℕ, 0 < den ∧ ((q = num / den ∧ v = magnitude F num den) ∨
      q = -(num / den) ∧ v = -magnitude F num den) := by
  obtain @⟨negative, num, den, pos⟩ := h
  have value : v = signed negative (roundedQuotient F num den) * 2 ^ lastExponent F num den := by
    by_cases num_ne : num = 0
    · have zero : roundedQuotient F 0 den = 0 :=
        Nat.le_zero.1 (roundedQuotient_le pos (by simp))
      rw [num_ne, Binary.ofRatio, if_pos rfl, value?_zero, Option.some.injEq] at hv
      rw [num_ne, zero, ← hv]
      cases negative <;> simp [signed]
    · rw [ofRatio_eq negative num_ne] at hv
      exact value?_ofSignificand hv
  refine ⟨num, den, pos, ?_⟩
  cases negative with
  | false => exact .inl ⟨rfl, value⟩
  | true =>
    refine .inr ⟨?_, ?_⟩
    · simp only [signed, if_true]
      push_cast
      ring
    · rw [value, magnitude]
      simp only [signed, if_true]
      push_cast
      ring

/-- What the format holds and is not above a number is not above the rounded number. -/
theorem le (h : Rounds q x) (hv : x.value? = some v) (held : F.Holds y) (le : y ≤ q) : y ≤ v := by
  obtain ⟨num, den, pos, ⟨rfl, rfl⟩ | ⟨rfl, rfl⟩⟩ := h.exists_magnitude hv
  · exact held.le_magnitude pos le
  · have opposite : (num / den : ℚ) ≤ -y := by linarith
    have below := held.neg.magnitude_le pos opposite
    linarith

/-- What the format holds and is not below a number is not below the rounded number. -/
theorem ge (h : Rounds q x) (hv : x.value? = some v) (held : F.Holds y) (le : q ≤ y) : v ≤ y := by
  obtain ⟨num, den, pos, ⟨rfl, rfl⟩ | ⟨rfl, rfl⟩⟩ := h.exists_magnitude hv
  · exact held.magnitude_le pos le
  · have opposite : -y ≤ (num / den : ℚ) := by linarith
    have above := held.neg.le_magnitude pos opposite
    linarith

/-- Between numbers that the format holds there is nothing infinite. -/
theorem exists_value (h : Rounds q x) (held : F.Holds y) (within : |q| ≤ y) :
    ∃ v, x.value? = some v := by
  obtain @⟨negative, num, den, pos⟩ := h
  have size : |(signed negative num : ℚ) / den| = num / den := by
    have nonneg : (0 : ℚ) ≤ num / den := by positivity
    cases negative with
    | false => exact abs_of_nonneg nonneg
    | true =>
      rw [signed, if_pos rfl, Int.cast_neg, neg_div, abs_neg]
      exact abs_of_nonneg nonneg
  rw [size] at within
  by_cases num_ne : num = 0
  · rw [num_ne, Binary.ofRatio, if_pos rfl]
    exact ⟨0, value?_zero negative⟩
  · rw [ofRatio_eq negative num_ne]
    have limit := held.lt_two_zpow
    have rounded := held.magnitude_le pos within
    refine exists_value?_ofSignificand (rounded.trans_lt limit) ?_
    -- the leading bit is not beyond the greatest number either
    have leading : leadingExponent num den < F.precision + F.maxExp := by
      rw [← zpow_lt_zpow_iff_right₀ (one_lt_two (α := ℚ))]
      exact (two_zpow_leadingExponent_le pos num_ne).trans_lt (within.trans_lt limit)
    have reach := Format.Sound.reach (F := F)
    unfold lastExponent
    omega

/-- What the format holds is met exactly. -/
theorem value_of_holds (h : Rounds q x) (held : F.Holds q) : x.value? = some q := by
  have within : F.Holds |q| := by
    rcases abs_choice q with same | opposite
    · rwa [same]
    · rw [opposite]
      exact held.neg
  obtain ⟨v, hv⟩ := h.exists_value within le_rfl
  rw [hv, le_antisymm (h.ge hv held le_rfl) (h.le hv held le_rfl)]

end Rounds

end Binary

end EventRules
