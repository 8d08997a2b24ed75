/-
Experience under a rule without modifiers. The amount is multiplied by one and nothing is added to
it, which changes no number of single precision; so what comes out is what single precision makes of
the amount. It keeps the integers of at most 24 significant bits, and it keeps the greatest of all,
which is rounded up to a number out of range and cut off; every other amount is changed.
-/
import EventRules.Proofs.Binary.Single
import EventRules.Proofs.Rule.Kind

namespace EventRules

open Binary

namespace ExperienceRule

/-- The rule sets no amount, multiplies by one and adds nothing. -/
structure Unmodified (r : ExperienceRule) : Prop where
  set : r.setXp = none
  mult : r.multXp = .one
  add : r.addXp = .zero false

variable {r : ExperienceRule} {x : Int32}

/-- Only the conversion to single precision and back can change the amount. -/
theorem Unmodified.exists_value (h : r.Unmodified) (x : Int32) :
    ∃ v : ℚ, (ofInt x.toInt : Single).value? = some v ∧
      (r.modifyXp x).toInt = clamp (-2147483648) 2147483647 (if 0 ≤ v then ⌊v⌋ else ⌈v⌉) := by
  have lower := x.le_toInt
  have upper := x.toInt_lt
  have rounds : Rounds (x.toInt : ℚ) (ofInt x.toInt : Single) := rounds_ofInt x.toInt
  have greatest : Format.single.Holds (2 ^ 31) :=
    ⟨1, 31, by decide, by decide, by decide, by norm_num⟩
  have within : |(x.toInt : ℚ)| ≤ 2 ^ 31 := by
    rw [abs_le]
    exact ⟨by exact_mod_cast lower, by exact_mod_cast upper.le⟩
  obtain ⟨v, value⟩ := rounds.exists_value greatest within
  have held : Format.single.Holds v := rounds.inFormat.holds value
  have one : (Binary.one : Single).value? = some ((1 : ℤ) : ℚ) :=
    value?_ofInt (by decide) (by decide) (by decide)
  have scaled := rounds_mul value one
  rw [Int.cast_one, mul_one] at scaled
  have offset := rounds_add (scaled.value_of_holds held) (value?_zero false)
  rw [add_zero] at offset
  refine ⟨v, value, ?_⟩
  rw [modifyXp, h.set, h.mult, h.add]
  exact toInt_toInt32 (offset.value_of_holds held)

theorem Unmodified.keeps_greatest (h : r.Unmodified) : r.modifyXp 2147483647 = 2147483647 := by
  rw [modifyXp, h.set, h.mult, h.add]
  decide +kernel

/-- An amount that single precision holds is kept. -/
theorem Unmodified.keeps_of_holds (h : r.Unmodified) (held : Format.single.Holds x.toInt) :
    r.modifyXp x = x := by
  have lower := x.le_toInt
  have upper := x.toInt_lt
  obtain ⟨v, value, result⟩ := h.exists_value x
  have exact : (ofInt x.toInt : Single).value? = some (x.toInt : ℚ) :=
    (rounds_ofInt x.toInt).value_of_holds held
  obtain rfl : (x.toInt : ℚ) = v := Option.some.inj (exact.symm.trans value)
  rw [← Int32.toInt_inj, result, Int.floor_intCast, Int.ceil_intCast, ite_self, clamp,
    if_neg (by omega), if_neg (by omega)]

/-- An amount that is kept is one that single precision holds, or the greatest. -/
theorem Unmodified.holds_of_keeps (h : r.Unmodified) (kept : r.modifyXp x = x)
    (other : x ≠ 2147483647) : Format.single.Holds x.toInt := by
  by_cases short : x.toInt.natAbs < 2 ^ 24
  · exact holds_intCast short (by decide) (by decide)
  · obtain ⟨v, value, result⟩ := h.exists_value x
    have rounds : Rounds (x.toInt : ℚ) (ofInt x.toInt : Single) := rounds_ofInt x.toInt
    obtain ⟨n, rfl⟩ := exists_int_of_long value (not_lt.1 short)
    rw [kept, Int.floor_intCast, Int.ceil_intCast, ite_self, clamp] at result
    split at result
    · rw [result]
      exact ⟨-1, 31, by decide, by decide, by decide, by norm_num⟩
    · split at result
      · exact absurd (Int32.toInt_inj.1 result) other
      · rw [result]
        exact rounds.inFormat.holds value

/-! ## Documents -/

variable {s : DeclarationSet} {host : Host} {d : Document}

theorem unmodified_of_absent (loads : (ofDocument s host d.json).result = some r)
    (set : d.get? Keyword.setXp.name = none) (mult : d.get? Keyword.multXp.name = none)
    (add : d.get? Keyword.addXp.name = none) : r.Unmodified := by
  have found : (RuleKind.experience.ofDocumentBy s host d.json).result = .ok (some r) :=
    congrArg Except.ok loads
  obtain ⟨m, read, -, rfl⟩ := RuleKind.ofDocumentBy_eq_some_iff.1 found
  have absent {t : ValueType} {key : Key t} (h : d.get? key.name = none) : m.get? key = none := by
    rw [AttributeMap.get?, AttributeMap.filed, DeclarationSet.absent_attributes read h]
    rfl
  exact ⟨absent set, congrArg (Option.getD · Binary.one) (absent mult),
    congrArg (Option.getD · (Binary.zero false)) (absent add)⟩

/-- A rule of a document without modifiers keeps an amount of experience exactly if the amount has
at most 24 significant bits or is the greatest there is. -/
theorem unmodified_keeps_iff (s : DeclarationSet) (host : Host) {d : Document} {r : ExperienceRule}
    (loads : (ofDocument s host d.json).result = some r)
    (set : d.get? Keyword.setXp.name = none) (mult : d.get? Keyword.multXp.name = none)
    (add : d.get? Keyword.addXp.name = none) (x : Int32) :
    r.modifyXp x = x ↔
      x = Int32.maxValue ∨ ∃ (m : ℤ) (k : ℕ), m.natAbs < 2 ^ 24 ∧ x.toInt = m * 2 ^ k := by
  have unmodified := unmodified_of_absent loads set mult add
  have lower := x.le_toInt
  have upper := x.toInt_lt
  rw [← Format.single_holds_int_iff (by omega)]
  constructor
  · intro kept
    by_cases greatest : x = 2147483647
    · exact .inl greatest
    · exact .inr (unmodified.holds_of_keeps kept greatest)
  · rintro (rfl | held)
    · exact unmodified.keeps_greatest
    · exact unmodified.keeps_of_holds held

/-- A rule on day time only keeps an amount of 25 bits that ends in a zero. -/
theorem unmodified_keeps_iff_morning :
    let d : Document := .ofPairs [(Keyword.maxTime.name, .number (.integer 6000))]
    ∃ r, (ofDocument declarations .bare d.json).result = some r ∧
      d.get? Keyword.setXp.name = none ∧ d.get? Keyword.multXp.name = none ∧
      d.get? Keyword.addXp.name = none ∧ r.modifyXp 33554430 = 33554430 := by
  intro d
  have loads : (ofDocument declarations .bare d.json).result.isSome = true := by decide +kernel
  obtain ⟨r, found⟩ := Option.isSome_iff_exists.1 loads
  refine ⟨r, found, by decide, by decide, by decide, ?_⟩
  exact (unmodified_keeps_iff declarations .bare found (by decide) (by decide) (by decide) _).2
    (.inr ⟨16777215, 1, by decide, by decide⟩)

/-- The rule of the empty document makes the first integer that needs 25 bits one less. -/
theorem empty_rule_loses_one :
    ∃ r, (ofDocument declarations .bare (Document.json .empty)).result = some r ∧
      r.modifyXp 16777217 = 16777216 :=
  ⟨_, rfl, by decide +kernel⟩

end ExperienceRule

end EventRules
