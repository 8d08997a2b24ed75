/-
Numbers of single precision: those that configuration gives and those that double precision holds.
Whatever is read is in the format. The number it stands for is held in double precision as it is,
and so is its square, since a square has at most twice as many bits. Of the integers, those with at
most 24 significant bits are held, and the others are rounded to such integers.
-/
import EventRules.Attribute.Map
import EventRules.Proofs.Binary.Floor

namespace EventRules

namespace Binary

variable {F : Format} [F.Sound]

/-! ## What is read -/

theorem inFormat_ofDecimal (negative : Bool) (m : ℕ) (e : ℤ) :
    (ofDecimal negative m e : Binary F).InFormat := by
  unfold ofDecimal
  dsimp only
  split
  · exact inFormat_zero negative
  · split
    · trivial
    · split
      · exact inFormat_zero negative
      · split
        · exact (Rounds.ofRatio negative _ Nat.one_pos).inFormat
        · exact (Rounds.ofRatio negative m (Nat.pow_pos (by decide))).inFormat

theorem inFormat_readUnsigned {negative : Bool} {cs : List Char} {x : Binary F}
    (h : Decimal.readUnsigned negative cs = some x) : x.InFormat := by
  unfold Decimal.readUnsigned at h
  dsimp only at h
  -- with a point and without one
  split at h <;> split at h
  · cases h
  · obtain ⟨e, -, made⟩ := Option.bind_eq_some_iff.1 h
    cases made
    exact inFormat_ofDecimal _ _ _
  · cases h
  · obtain ⟨e, -, made⟩ := Option.bind_eq_some_iff.1 h
    cases made
    exact inFormat_ofDecimal _ _ _

theorem inFormat_readBinary {cs : List Char} {x : Binary F} (h : Decimal.readBinary cs = some x) :
    x.InFormat := by
  unfold Decimal.readBinary at h
  dsimp only at h
  split at h
  · cases h
    trivial
  · split at h
    · cases h
      trivial
    · exact inFormat_readUnsigned h

end Binary

open Binary

/-- A configuration value of single precision is in the format. -/
theorem ValueType.inFormat_of_float {v : Json} {x : Single} (h : float? v = some x) :
    x.InFormat := by
  cases v with
  | number n =>
    cases h
    exact inFormat_convert n.toDouble
  | string text => exact inFormat_readBinary h
  | _ => cases h

theorem AttributeMap.inFormat_of_get? {m : AttributeMap} {key : Key .float} {x : Single}
    (h : m.get? key = some x) : x.InFormat := by
  obtain ⟨v, -, read⟩ := Option.bind_eq_some_iff.1 h
  exact ValueType.inFormat_of_float read

/-! ## Double precision -/

namespace Format.Holds

variable {v : ℚ}

theorem widened (h : Format.single.Holds v) : Format.double.Holds v := by
  obtain ⟨m, e, small, lowest, highest, rfl⟩ := h
  have bits : m.natAbs < 2 ^ 24 := small
  have low : -149 ≤ e := lowest
  have high : e ≤ 104 := highest
  have wide : m.natAbs < 2 ^ 53 := by omega
  have below : -1074 ≤ e := by omega
  have above : e ≤ 971 := by omega
  exact ⟨m, e, wide, below, above, rfl⟩

theorem squared (h : Format.single.Holds v) : Format.double.Holds (v * v) := by
  obtain ⟨m, e, small, lowest, highest, rfl⟩ := h
  have bits : m.natAbs < 2 ^ 24 := small
  have low : -149 ≤ e := lowest
  have high : e ≤ 104 := highest
  have wide : (m * m).natAbs < 2 ^ 53 := by
    rw [Int.natAbs_mul]
    calc m.natAbs * m.natAbs ≤ 2 ^ 24 * 2 ^ 24 := Nat.mul_le_mul bits.le bits.le
      _ < 2 ^ 53 := by norm_num
  have below : -1074 ≤ e + e := by omega
  have above : e + e ≤ 971 := by omega
  refine ⟨m * m, e + e, wide, below, above, ?_⟩
  rw [zpow_add₀ (by norm_num)]
  push_cast
  ring

end Format.Holds

/-! ## Integers -/

namespace Format.Holds

variable {F : Format} {v : ℚ}

/-- A number of more bits than a significand has is an integer. -/
theorem exists_int (h : F.Holds v) (large : 2 ^ F.precision ≤ |v|) : ∃ n : ℤ, v = n := by
  obtain ⟨m, e, small, -, -, rfl⟩ := h
  by_cases up : 0 ≤ e
  · obtain ⟨k, rfl⟩ := Int.eq_ofNat_of_zero_le up
    refine ⟨m * 2 ^ k, ?_⟩
    push_cast
    rw [zpow_natCast]
  · -- a significand shifted to the right stays below the limit
    have bits : |(m : ℚ)| < 2 ^ F.precision := by
      rw [← Int.cast_abs, Int.abs_eq_natAbs]
      exact_mod_cast small
    have positive : (0 : ℚ) < 2 ^ e := zpow_pos two_pos e
    have unit : (2 : ℚ) ^ e ≤ 1 := zpow_le_one_of_nonpos₀ (by norm_num) (by omega)
    have below : |(m : ℚ) * 2 ^ e| ≤ |(m : ℚ)| := by
      rw [abs_mul, abs_of_pos positive]
      exact mul_le_of_le_one_right (abs_nonneg _) unit
    linarith

end Format.Holds

/-- Single precision holds the integers of 32 bits with at most 24 significant ones. -/
theorem Format.single_holds_int_iff {n : ℤ} (range : n.natAbs ≤ 2 ^ 31) :
    Format.single.Holds n ↔ ∃ (m : ℤ) (k : ℕ), m.natAbs < 2 ^ 24 ∧ n = m * 2 ^ k := by
  constructor
  · intro held
    by_cases short : n.natAbs < 2 ^ 24
    · exact ⟨n, 0, short, by simp⟩
    · obtain ⟨m, e, small, -, -, same⟩ := held
      have bits : m.natAbs < 2 ^ 24 := small
      have up : 0 ≤ e := by
        by_contra down
        obtain ⟨k, rfl⟩ : ∃ k : ℕ, e = -k := ⟨(-e).toNat, by omega⟩
        have whole := eq_mul_two_pow same.symm
        rw [Int.toNat_neg_natCast, neg_neg, Int.toNat_natCast, pow_zero, mul_one] at whole
        have longer : n.natAbs ≤ m.natAbs := by
          rw [whole, Int.natAbs_mul]
          exact Nat.le_mul_of_pos_right _ (Int.natAbs_pos.2 (by positivity))
        omega
      obtain ⟨k, rfl⟩ := Int.eq_ofNat_of_zero_le up
      refine ⟨m, k, bits, ?_⟩
      rw [zpow_natCast] at same
      exact_mod_cast same
  · rintro ⟨m, k, small, rfl⟩
    rcases eq_or_ne m 0 with rfl | m_ne
    · rw [zero_mul]
      exact holds_intCast (by decide) (by decide) (by decide)
    · have reach : k ≤ 31 := by
        rw [Int.natAbs_mul, Int.natAbs_pow] at range
        have power : 2 ^ k ≤ 2 ^ 31 :=
          (Nat.le_mul_of_pos_left _ (Int.natAbs_pos.2 m_ne)).trans range
        exact (Nat.pow_le_pow_iff_right (by decide)).1 power
      have below : -149 ≤ (k : ℤ) := by omega
      have above : (k : ℤ) ≤ 104 := by omega
      refine ⟨m, k, small, below, above, ?_⟩
      push_cast
      rw [zpow_natCast]

/-- A long integer is rounded to an integer. -/
theorem Binary.exists_int_of_long {n : ℤ} {v : ℚ} (value : (ofInt n : Single).value? = some v)
    (long : 2 ^ 24 ≤ n.natAbs) : ∃ k : ℤ, v = k := by
  have rounds : Rounds (n : ℚ) (ofInt n : Single) := rounds_ofInt n
  have limit : Format.single.Holds (2 ^ 24) :=
    ⟨1, 24, by decide, by decide, by decide, by norm_num⟩
  refine (rounds.inFormat.holds value).exists_int ?_
  show (2 : ℚ) ^ 24 ≤ |v|
  rcases le_total 0 n with positive | negative
  · have above : (2 ^ 24 : ℤ) ≤ n := by omega
    exact (rounds.le value limit (by exact_mod_cast above)).trans (le_abs_self v)
  · have below : n ≤ (-2 ^ 24 : ℤ) := by omega
    have least := rounds.ge value limit.neg (by exact_mod_cast below)
    exact le_abs.2 (.inr (by linarith))

end EventRules
