/-
Operations on finite binary floating-point numbers, in terms of the rational numbers they stand for:
each rounds the exact result once, and comparisons are those of the rational numbers.
-/
import EventRules.Proofs.Binary.Rounding

namespace EventRules.Binary

variable {F : Format} {x y : Binary F} {a b : ℚ}

/-! ## Rounded results -/

theorem rounds_ofScaled (negative : Bool) (m : ℕ) (e : ℤ) :
    Rounds (signed negative m * 2 ^ e) (ofScaled negative m e : Binary F) := by
  unfold ofScaled
  split
  · rename_i up
    obtain ⟨k, rfl⟩ := Int.eq_ofNat_of_zero_le up
    rw [Int.toNat_natCast, Nat.shiftLeft_eq, zpow_natCast]
    have exact : (signed negative m : ℚ) * 2 ^ k =
        (signed negative (m * 2 ^ k) : ℚ) / (1 : ℕ) := by
      rw [signed_mul]
      push_cast
      ring
    rw [exact]
    exact .ofRatio negative _ Nat.one_pos
  · rename_i down
    obtain ⟨k, rfl⟩ : ∃ k : ℕ, e = -k := ⟨(-e).toNat, by omega⟩
    rw [neg_neg, Int.toNat_natCast, Nat.one_shiftLeft, zpow_neg, zpow_natCast, ← div_eq_mul_inv]
    have exact : (signed negative m : ℚ) / 2 ^ k = signed negative m / ((2 ^ k : ℕ) : ℚ) := by
      push_cast
      rfl
    rw [exact]
    exact .ofRatio negative m (by positivity)

theorem rounds_ofInt (n : ℤ) : Rounds (n : ℚ) (ofInt n : Binary F) := by
  have exact : (n : ℚ) = (signed (n < 0) n.natAbs : ℚ) / (1 : ℕ) := by
    rw [signed_natAbs, Nat.cast_one, div_one]
  rw [exact]
  exact .ofRatio _ _ Nat.one_pos

theorem rounds_convert {G : Format} {x : Binary G} (hx : x.value? = some a) :
    Rounds a (x.convert : Binary F) := by
  cases x with
  | finite negative m e =>
    cases hx
    exact rounds_ofScaled negative m e
  | _ => cases hx

/-- Whatever the number is, in the other format it is in the format. -/
theorem inFormat_convert [F.Sound] {G : Format} (x : Binary G) : (x.convert : Binary F).InFormat := by
  cases x with
  | finite negative m e => exact (rounds_ofScaled negative m e).inFormat
  | _ => trivial

/-- Two numbers over the smaller of their exponents are the same numbers. -/
theorem aligned_eq (m₁ e₁ m₂ e₂ : ℤ) : ∃ a b e, aligned m₁ e₁ m₂ e₂ = (a, b, e) ∧
    (m₁ : ℚ) * 2 ^ e₁ = a * 2 ^ e ∧ (m₂ : ℚ) * 2 ^ e₂ = b * 2 ^ e := by
  have shifted (m : ℤ) {e k : ℤ} (le : k ≤ e) :
      (m : ℚ) * 2 ^ e = ((m * ((1 <<< (e - k).toNat : ℕ) : ℤ) : ℤ) : ℚ) * 2 ^ k := by
    rw [Nat.one_shiftLeft]
    push_cast
    rw [mul_assoc, ← zpow_natCast, ← zpow_add₀ (by norm_num)]
    congr 2
    omega
  unfold aligned
  split
  · rename_i le
    exact ⟨_, _, _, rfl, rfl, shifted m₂ le⟩
  · rename_i gt
    exact ⟨_, _, _, rfl, shifted m₁ (by omega), rfl⟩

theorem rounds_add (hx : x.value? = some a) (hy : y.value? = some b) :
    Rounds (a + b) (x + y) := by
  show Rounds (a + b) (add x y)
  cases x with
  | finite n₁ m₁ e₁ =>
    cases y with
    | finite n₂ m₂ e₂ =>
      cases hx
      cases hy
      obtain ⟨a, b, e, same, first, second⟩ :=
        aligned_eq (signed n₁ m₁) e₁ (signed n₂ m₂) e₂
      simp only [add, same]
      rw [first, second, ← add_mul]
      by_cases cancels : a + b = 0
      · have none : ((a : ℚ) + b) * 2 ^ e = (signed (n₁ && n₂) 0 : ℚ) / (1 : ℕ) := by
          have sum : (a : ℚ) + b = 0 := by exact_mod_cast cancels
          cases n₁ && n₂ <;> simp [sum, signed]
        have zero : (zero (n₁ && n₂) : Binary F) = ofRatio (n₁ && n₂) 0 1 := rfl
        rw [if_pos cancels, none, zero]
        exact .ofRatio _ _ Nat.one_pos
      · have exact : ((a : ℚ) + b) * 2 ^ e = (signed (a + b < 0) (a + b).natAbs : ℚ) * 2 ^ e := by
          rw [signed_natAbs]
          push_cast
          rfl
        rw [if_neg cancels, exact]
        exact rounds_ofScaled _ _ e
    | _ => cases hy
  | _ => cases hx

theorem value?_neg (hx : x.value? = some a) : (-x).value? = some (-a) := by
  cases x with
  | finite negative m e =>
    cases hx
    show some _ = some _
    cases negative <;> simp [signed]
  | _ => cases hx

theorem rounds_sub (hx : x.value? = some a) (hy : y.value? = some b) :
    Rounds (a - b) (x - y) := by
  rw [sub_eq_add_neg]
  exact rounds_add hx (value?_neg hy)

theorem rounds_mul (hx : x.value? = some a) (hy : y.value? = some b) :
    Rounds (a * b) (x * y) := by
  show Rounds (a * b) (mul x y)
  cases x with
  | finite n₁ m₁ e₁ =>
    cases y with
    | finite n₂ m₂ e₂ =>
      cases hx
      cases hy
      have exact : (signed n₁ m₁ : ℚ) * 2 ^ e₁ * (signed n₂ m₂ * 2 ^ e₂) =
          signed (n₁ != n₂) (m₁ * m₂) * 2 ^ (e₁ + e₂) := by
        rw [zpow_add₀ (by norm_num)]
        cases n₁ <;> cases n₂ <;> simp [signed] <;> ring
      rw [exact]
      exact rounds_ofScaled _ _ _
    | _ => cases hy
  | _ => cases hx

/-! ## Comparison -/

/-- Finite numbers compare as the numbers they stand for. -/
theorem order?_of_values (hx : x.value? = some a) (hy : y.value? = some b) :
    x.order? y = some (if a < b then .lt else if a = b then .eq else .gt) := by
  cases x with
  | finite n₁ m₁ e₁ =>
    cases y with
    | finite n₂ m₂ e₂ =>
      cases hx
      cases hy
      obtain ⟨a, b, e, same, first, second⟩ :=
        aligned_eq (signed n₁ m₁) e₁ (signed n₂ m₂) e₂
      have unit : (0 : ℚ) < 2 ^ e := zpow_pos two_pos e
      simp only [order?, same]
      rw [first, second]
      simp only [mul_lt_mul_iff_of_pos_right unit, mul_left_inj' unit.ne', Int.cast_lt,
        Int.cast_inj]
    | _ => cases hy
  | _ => cases hx

theorem lt_iff_of_values (hx : x.value? = some a) (hy : y.value? = some b) :
    x.lt y = true ↔ a < b := by
  rw [lt, order?_of_values hx hy]
  split
  · rename_i lt
    exact iff_of_true rfl lt
  · rename_i ge
    refine iff_of_false ?_ ge
    split <;> decide

theorem le_iff_of_values (hx : x.value? = some a) (hy : y.value? = some b) :
    x.le y = true ↔ a ≤ b := by
  rw [le, order?_of_values hx hy]
  split
  · rename_i lt
    exact iff_of_true rfl lt.le
  · rename_i ge
    split
    · rename_i eq
      exact iff_of_true rfl eq.le
    · rename_i ne
      exact iff_of_false (by decide) fun le => ne (le_antisymm le (not_lt.1 ge))

theorem same_iff_of_values (hx : x.value? = some a) (hy : y.value? = some b) :
    x.same y = true ↔ a = b := by
  rw [same, order?_of_values hx hy]
  split
  · rename_i lt
    exact iff_of_false (by decide) lt.ne
  · split
    · rename_i eq
      exact iff_of_true rfl eq
    · rename_i ne
      exact iff_of_false (by decide) ne

end EventRules.Binary
