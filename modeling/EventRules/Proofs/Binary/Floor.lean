/-
Reading a finite binary number as an integer, in terms of the rational number it stands for: rounded
down it is the floor, rounded toward zero the floor or the ceiling by its sign. Taking one from a
double that is not a negative number with a fraction takes one from its floor, although the
difference may be rounded.
-/
import EventRules.Proofs.Binary.Operation
import Mathlib.Data.Rat.Floor

namespace EventRules.Binary

variable {F : Format} {x : Binary F} {v : ℚ} {low high : ℤ}

/-! ## Floors -/

theorem floored_eq_floor (negative : Bool) (m : ℕ) (e : ℤ) :
    floored negative m e = ⌊(signed negative m : ℚ) * 2 ^ e⌋ := by
  unfold floored
  split
  · rename_i up
    obtain ⟨k, rfl⟩ := Int.eq_ofNat_of_zero_le up
    have whole : (signed negative m : ℚ) * 2 ^ (k : ℤ) = (signed negative (m * 2 ^ k) : ℤ) := by
      rw [signed_mul, zpow_natCast]
      push_cast
      rfl
    rw [Int.toNat_natCast, Nat.shiftLeft_eq, whole, Int.floor_intCast]
  · rename_i down
    obtain ⟨k, rfl⟩ : ∃ k : ℕ, e = -k := ⟨(-e).toNat, by omega⟩
    have quotient : (signed negative m : ℚ) * 2 ^ (-k : ℤ) =
        (signed negative m : ℤ) / ((2 ^ k : ℕ) : ℚ) := by
      rw [zpow_neg, zpow_natCast, ← div_eq_mul_inv]
      push_cast
      rfl
    rw [neg_neg, Int.toNat_natCast, Nat.one_shiftLeft, quotient, Rat.floor_intCast_div_natCast,
      Int.fdiv_eq_ediv_of_nonneg _ (by positivity)]

theorem truncated_neg (m : ℕ) (e : ℤ) : truncated true m e = -truncated false m e := by
  simp [truncated, signed]

theorem truncated_eq_floor (m : ℕ) (e : ℤ) : truncated false m e = ⌊(m : ℚ) * 2 ^ e⌋ := by
  rw [show (m : ℚ) = (signed false m : ℤ) from rfl, ← floored_eq_floor, truncated_eq_tdiv]
  unfold floored
  split
  · rename_i up
    rw [show (-e).toNat = 0 by omega, pow_zero, Int.tdiv_one, Nat.shiftLeft_eq, signed_mul]
    push_cast
    rfl
  · rename_i down
    have nonneg : (0 : ℤ) ≤ signed false m := Int.natCast_nonneg m
    rw [show e.toNat = 0 by omega, pow_zero, mul_one, Nat.one_shiftLeft,
      Int.fdiv_eq_tdiv_of_nonneg nonneg (by positivity)]
    push_cast
    rfl

/-- Rounded toward zero a number is its floor, or its ceiling if it is negative. -/
theorem truncated_eq (negative : Bool) (m : ℕ) (e : ℤ) :
    truncated negative m e =
      if 0 ≤ (signed negative m : ℚ) * 2 ^ e then ⌊(signed negative m : ℚ) * 2 ^ e⌋
      else ⌈(signed negative m : ℚ) * 2 ^ e⌉ := by
  have nonneg : (0 : ℚ) ≤ m * 2 ^ e := by positivity
  cases negative with
  | false =>
    exact (truncated_eq_floor m e).trans (if_pos nonneg).symm
  | true =>
    have opposite : (signed true m : ℚ) * 2 ^ e = -(m * 2 ^ e) := by
      simp only [signed, if_true]
      push_cast
      ring
    rw [truncated_neg, truncated_eq_floor, opposite, Int.ceil_neg, Int.floor_neg]
    split
    · rename_i zero
      rw [show (m : ℚ) * 2 ^ e = 0 by linarith, Int.floor_zero, Int.ceil_zero]
    · rfl

/-! ## Words of 32 bits -/

theorem clamp_mem (le : low ≤ high) (n : ℤ) : low ≤ clamp low high n ∧ clamp low high n ≤ high := by
  unfold clamp
  split
  · omega
  · split <;> omega

/-- What is strictly inside the range is not changed. -/
theorem eq_of_clamp_inside {n : ℤ} (above : low < clamp low high n)
    (below : clamp low high n < high) : clamp low high n = n := by
  unfold clamp at *
  split
  · rename_i h
    rw [if_pos h] at above
    omega
  · rename_i h
    rw [if_neg h] at below
    split
    · rename_i h'
      rw [if_pos h'] at below
      omega
    · rfl

theorem toInt_floorInt32 (hv : x.value? = some v) :
    x.floorInt32.toInt = clamp (-2147483648) 2147483647 ⌊v⌋ := by
  cases x with
  | finite negative m e =>
    cases hv
    obtain ⟨least, greatest⟩ := clamp_mem (show (-2147483648 : ℤ) ≤ 2147483647 by decide)
      ⌊(signed negative m : ℚ) * 2 ^ e⌋
    rw [floorInt32, saturate, floored_eq_floor]
    exact Int32.toInt_ofInt_of_le (by omega) (by omega)
  | _ => cases hv

theorem toInt_toInt32 (hv : x.value? = some v) :
    x.toInt32.toInt = clamp (-2147483648) 2147483647 (if 0 ≤ v then ⌊v⌋ else ⌈v⌉) := by
  cases x with
  | finite negative m e =>
    cases hv
    obtain ⟨least, greatest⟩ := clamp_mem (show (-2147483648 : ℤ) ≤ 2147483647 by decide)
      (truncated negative m e)
    rw [toInt32, saturate, ← truncated_eq]
    exact Int32.toInt_ofInt_of_le (by omega) (by omega)
  | _ => cases hv

/-! ## One less -/

/-- An integer that a significand has room for is held. -/
theorem holds_intCast {n : ℤ} (small : n.natAbs < 2 ^ F.precision) (lowest : F.minExp ≤ 0)
    (highest : 0 ≤ F.maxExp) : F.Holds n :=
  ⟨n, 0, small, lowest, highest, by simp⟩

theorem double_holds_intCast {n : ℤ} (small : n.natAbs < 2 ^ 53) : Format.double.Holds n :=
  holds_intCast small (by decide) (by decide)

/-- An integer of less bits than a significand of double precision has is met exactly. -/
theorem Rounds.value_of_int {x : Double} {n : ℤ} (h : Rounds (n : ℚ) x)
    (small : n.natAbs < 2 ^ 53) : x.value? = some (n : ℚ) :=
  h.value_of_holds (double_holds_intCast small)

/-- One less than a fraction that is not negative: the double itself, or close to minus one. -/
theorem holds_sub_one_or_lt (held : Format.double.Holds v) (nonneg : 0 ≤ v)
    (fraction : ∀ n : ℤ, v ≠ n) : Format.double.Holds (v - 1) ∨ v < 1 / 2 := by
  obtain ⟨m, e, small, lowest, highest, rfl⟩ := held.exists_nat nonneg
  replace small : m < 2 ^ 53 := small
  have positive : m ≠ 0 := by
    rintro rfl
    exact fraction 0 (by simp)
  have down : e < 0 := by
    by_contra up
    obtain ⟨k, rfl⟩ := Int.eq_ofNat_of_zero_le (not_lt.1 up)
    exact fraction (m * 2 ^ k) (by push_cast; rw [zpow_natCast])
  obtain ⟨k, rfl⟩ : ∃ k : ℕ, e = -k := ⟨(-e).toNat, by omega⟩
  by_cases near : k ≤ 53
  · -- one is a multiple of the last bit that is no greater than a significand can be
    left
    have bit : 2 ^ k ≤ 2 ^ 53 := Nat.pow_le_pow_right (by decide) near
    have pos : 0 < 2 ^ k := by positivity
    refine ⟨(m : ℤ) - (2 ^ k : ℕ), -k, ?_, lowest, highest, ?_⟩
    · show _ < 2 ^ 53
      omega
    · push_cast
      rw [sub_mul, zpow_neg, zpow_natCast, mul_inv_cancel₀ (by positivity)]
  · right
    have m_lt : (m : ℚ) < 2 ^ 53 := by exact_mod_cast small
    calc (m : ℚ) * 2 ^ (-k : ℤ) < 2 ^ 53 * 2 ^ (-k : ℤ) := by gcongr
      _ ≤ 2 ^ 53 * 2 ^ (-54 : ℤ) := by
          gcongr
          · norm_num
          · omega
      _ = 1 / 2 := by norm_num

/-- One less has a floor that is one less, unless the number is negative and has a fraction. -/
theorem floor_sub_one {x : Double} (inFormat : x.InFormat) (hv : x.value? = some v)
    (small : |v| < 2 ^ 52) (plain : 0 ≤ v ∨ ∃ n : ℤ, v = n) :
    ∃ w, (x - .one).value? = some w ∧ ⌊w⌋ = ⌊v⌋ - 1 := by
  have one : (one : Double).value? = some ((1 : ℤ) : ℚ) :=
    value?_ofInt (by decide) (by decide) (by decide)
  have rounds : Rounds (v - (1 : ℤ)) (x - .one) := rounds_sub hv one
  rw [Int.cast_one] at rounds
  have exact (held : Format.double.Holds (v - 1)) :
      ∃ w, (x - .one).value? = some w ∧ ⌊w⌋ = ⌊v⌋ - 1 :=
    ⟨v - 1, rounds.value_of_holds held, Int.floor_sub_one v⟩
  obtain ⟨above, below⟩ := abs_lt.1 small
  by_cases whole : ∃ n : ℤ, v = n
  · obtain ⟨n, rfl⟩ := whole
    have lower : -(2 : ℤ) ^ 52 < n := by exact_mod_cast above
    have upper : n < (2 : ℤ) ^ 52 := by exact_mod_cast below
    have held : Format.double.Holds ((n - 1 : ℤ) : ℚ) := double_holds_intCast (by omega)
    exact exact (by exact_mod_cast held)
  · have nonneg : 0 ≤ v := plain.resolve_right whole
    rcases holds_sub_one_or_lt (inFormat.holds hv) nonneg (fun n same => whole ⟨n, same⟩)
      with held | half
    · exact exact held
    · -- the difference lies between minus one and minus one half, and so does the rounded one
      have least : Format.double.Holds ((-1 : ℤ) : ℚ) := double_holds_intCast (by decide)
      have greatest : Format.double.Holds (-(1 / 2)) :=
        ⟨-1, -1, by decide, by decide, by decide, by norm_num⟩
      have bounded : |v - 1| ≤ (1 : ℤ) := by
        rw [abs_le]
        push_cast
        constructor <;> linarith
      obtain ⟨w, hw⟩ := rounds.exists_value (double_holds_intCast (by decide)) bounded
      have low := rounds.le hw least (by push_cast; linarith)
      have high := rounds.ge hw greatest (by linarith)
      push_cast at low
      have before : ⌊v⌋ = 0 := Int.floor_eq_zero_iff.2 ⟨nonneg, by linarith⟩
      have behind : ⌊w⌋ = -1 := Int.floor_eq_iff.2 ⟨by push_cast; linarith, by push_cast; linarith⟩
      exact ⟨w, hw, by rw [before, behind, zero_sub]⟩

end EventRules.Binary
