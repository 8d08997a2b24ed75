/-
The weights of a choice. A sum of weights that are not negative never rounds to less than either of
its terms, so the partial sums increase, and only a positive weight makes one greater than the one
before. The choice falls where the partial sums pass the drawn point: the sum that ends with the
entry is above the point and the sum before it is not, so the weight of the entry is positive.
-/
import EventRules.Action.Weighted
import EventRules.Proofs.Binary.Operation

namespace EventRules

open Binary

/-! ## Weights -/

/-- A finite weight that is not negative, and the number it stands for. -/
structure Weighs (w : Single) (a : ℚ) : Prop where
  inFormat : w.InFormat
  value : w.value? = some a
  nonneg : 0 ≤ a

namespace Weighs

variable {w x : Single} {a b c : ℚ}

theorem holds (h : Weighs w a) : Format.single.Holds a := h.inFormat.holds h.value

theorem zero_lt_iff (h : Weighs w a) : (Binary.zero false).lt w = true ↔ 0 < a :=
  lt_iff_of_values (value?_zero false) h.value

/-- The sum of two weights is a weight, and neither of the two is greater. -/
theorem add (hw : Weighs w a) (hx : Weighs x b) (hc : (w + x).value? = some c) :
    Weighs (w + x) c ∧ a ≤ c ∧ b ≤ c := by
  have rounds := rounds_add hw.value hx.value
  have first : a ≤ c := rounds.le hc hw.holds (le_add_of_nonneg_right hx.nonneg)
  have second : b ≤ c := rounds.le hc hx.holds (le_add_of_nonneg_left hw.nonneg)
  exact ⟨⟨rounds.inFormat, hc, hw.nonneg.trans first⟩, first, second⟩

/-- Adding nothing changes nothing. -/
theorem add_nothing (hw : Weighs w a) (hx : Weighs x 0) (hc : (w + x).value? = some c) : c = a := by
  have rounds := rounds_add hw.value hx.value
  rw [add_zero] at rounds
  exact Option.some.inj (hc.symm.trans (rounds.value_of_holds hw.holds))

end Weighs

namespace Binary

variable {F : Format} {x y : Binary F}

theorem isFinite_iff : x.isFinite = true ↔ ∃ a, x.value? = some a := by
  cases x <;> simp [isFinite, value?]

/-- A sum is finite only if both terms are. -/
theorem isFinite_of_add (h : (x + y).isFinite = true) :
    x.isFinite = true ∧ y.isFinite = true := by
  change (add x y).isFinite = true at h
  cases x with
  | finite n₁ m₁ e₁ =>
    cases y with
    | finite n₂ m₂ e₂ => exact ⟨rfl, rfl⟩
    | _ => cases h
  | infinite n₁ =>
    cases y with
    | infinite n₂ =>
      rw [add] at h
      split at h <;> cases h
    | _ => cases h
  | nan => cases h

theorem same_zero_of_not_finite (h : x.isFinite = false) : x.same (.zero false) = false := by
  cases x with
  | finite n m e => cases h
  | infinite n => cases n <;> rfl
  | nan => rfl

end Binary

/-! ## Partial sums -/

namespace Generator

/-- A word gives a multiple of `2 ^ -23` below one. -/
theorem value?_coarseFraction (w : UInt32) : ∃ n : ℕ, n < 2 ^ 23 ∧
    (coarseFraction w).value? = some ((n : ℚ) * 2 ^ (-23 : ℤ)) := by
  have bound : (w >>> 9).toNat < 2 ^ 23 := by
    rw [UInt32.toNat_shiftRight]
    show w.toNat >>> 9 < _
    rw [Nat.shiftRight_eq_div_pow]
    exact Nat.div_lt_of_lt_mul w.toNat_lt
  have rounds : Rounds (((w >>> 9).toNat : ℚ) * 2 ^ (-23 : ℤ)) (coarseFraction w) :=
    rounds_ofScaled false _ _
  have held : Format.single.Holds (((w >>> 9).toNat : ℚ) * 2 ^ (-23 : ℤ)) :=
    ⟨(w >>> 9).toNat, -23, bound.trans (by decide), by decide, by decide, rfl⟩
  exact ⟨_, bound, rounds.value_of_holds held⟩

end Generator

namespace WeightedChoice

section Sums

variable {total p : Single} {t v : ℚ} {weights : List Single}

theorem sums_cons (total w : Single) (rest : List Single) : sums total (w :: rest) =
    (total :: (sums (total + w) rest).1, (sums (total + w) rest).2) := rfl

theorem finite_of_sums (h : (sums total weights).2.isFinite = true) :
    total.isFinite = true ∧ ∀ w ∈ weights, w.isFinite = true := by
  induction weights generalizing total with
  | nil => exact ⟨h, fun _ hw => absurd hw List.not_mem_nil⟩
  | cons w rest ih =>
    obtain ⟨sum, tail⟩ := ih h
    obtain ⟨first, second⟩ := isFinite_of_add sum
    exact ⟨first, List.forall_mem_cons.2 ⟨second, tail⟩⟩

theorem length_sums (total : Single) (weights : List Single) :
    (sums total weights).1.length = weights.length := by
  induction weights generalizing total with
  | nil => rfl
  | cons w rest ih => rw [sums_cons, List.length_cons, List.length_cons, ih]

/-- One more weight on a finite sum. -/
theorem weighs_add {w : Single} {rest : List Single} {a : ℚ} (ht : Weighs total t)
    (hw : Weighs w a) (finite : (sums total (w :: rest)).2.isFinite = true) :
    ∃ s, Weighs (total + w) s ∧ t ≤ s ∧ a ≤ s ∧ (a = 0 → s = t) := by
  rw [sums_cons] at finite
  obtain ⟨s, hs⟩ := isFinite_iff.1 (finite_of_sums finite).1
  obtain ⟨weighs, first, second⟩ := ht.add hw hs
  refine ⟨s, weighs, first, second, fun none => ?_⟩
  subst none
  exact ht.add_nothing hw hs

/-- The whole sum is a weight, and no term of it is greater. -/
theorem weighs_sums (ht : Weighs total t) (each : ∀ w ∈ weights, ∃ a, Weighs w a)
    (finite : (sums total weights).2.isFinite = true) :
    ∃ s, Weighs (sums total weights).2 s ∧ t ≤ s ∧ ∀ w ∈ weights, ∃ a, Weighs w a ∧ a ≤ s := by
  induction weights generalizing total t with
  | nil => exact ⟨t, ht, le_rfl, fun _ hw => absurd hw List.not_mem_nil⟩
  | cons w rest ih =>
    obtain ⟨⟨a, hw⟩, others⟩ := List.forall_mem_cons.1 each
    obtain ⟨t', ht', first, second, -⟩ := weighs_add ht hw finite
    obtain ⟨s, hs, le, inner⟩ := ih ht' others finite
    exact ⟨s, hs, first.trans le, List.forall_mem_cons.2 ⟨⟨a, hw, second.trans le⟩, inner⟩⟩

/-- The number of leading partial sums that are not above a point. -/
def passed (p : Single) (partials : List Single) : ℕ :=
  (partials.takeWhile (·.le p)).length

theorem passed_cons (p c : Single) (partials : List Single) :
    passed p (c :: partials) = if c.le p then passed p partials + 1 else 0 := by
  unfold passed
  rw [List.takeWhile_cons]
  split <;> rfl

/-- No partial sum is less than the first. -/
theorem not_le_of_mem_sums (hp : p.value? = some v) (ht : Weighs total t)
    (each : ∀ w ∈ weights, ∃ a, Weighs w a) (finite : (sums total weights).2.isFinite = true)
    (above : v < t) : ∀ c ∈ (sums total weights).1, c.le p = false := by
  induction weights generalizing total t with
  | nil => exact fun _ hc => absurd hc List.not_mem_nil
  | cons w rest ih =>
    obtain ⟨⟨a, hw⟩, others⟩ := List.forall_mem_cons.1 each
    obtain ⟨t', ht', first, -, -⟩ := weighs_add ht hw finite
    refine List.forall_mem_cons.2 ⟨?_, ih ht' others finite (above.trans_le first)⟩
    exact Bool.eq_false_iff.2 fun le => above.not_ge ((le_iff_of_values ht.value hp).1 le)

/-- The partial sums increase, so those that are not above a point come first. -/
theorem passed_sums (hp : p.value? = some v) (ht : Weighs total t)
    (each : ∀ w ∈ weights, ∃ a, Weighs w a) (finite : (sums total weights).2.isFinite = true) :
    passed p (sums total weights).1 = (sums total weights).1.countP (·.le p) := by
  induction weights generalizing total t with
  | nil => rfl
  | cons w rest ih =>
    obtain ⟨⟨a, hw⟩, others⟩ := List.forall_mem_cons.1 each
    obtain ⟨t', ht', -, -, -⟩ := weighs_add ht hw finite
    by_cases le : total.le p = true
    · rw [sums_cons, passed_cons, if_pos le, ih ht' others finite, List.countP_cons, if_pos le]
    · have above : v < t := not_le.1 fun h => le ((le_iff_of_values ht.value hp).2 h)
      have none := not_le_of_mem_sums hp ht each finite above
      rw [List.countP_eq_zero.2 fun c hc => Bool.eq_false_iff.1 (none c hc), sums_cons, passed_cons,
        if_neg le]

/-- Where the partial sums pass a point there is a positive weight. Here `w` is the weight that was
added last: it is positive if the sum with it is above the point. -/
theorem exists_positive_of_sums (hp : p.value? = some v) (ht : Weighs total t)
    (each : ∀ w ∈ weights, ∃ a, Weighs w a) (finite : (sums total weights).2.isFinite = true)
    (below : p.lt (sums total weights).2 = true) {w : Single} {a : ℚ} (hw : Weighs w a)
    (last : v < t → 0 < a) :
    ∃ x b, (w :: weights)[passed p (sums total weights).1]? = some x ∧ Weighs x b ∧ 0 < b := by
  induction weights generalizing total t w a with
  | nil => exact ⟨w, a, rfl, hw, last ((lt_iff_of_values hp ht.value).1 below)⟩
  | cons x rest ih =>
    obtain ⟨⟨b, hx⟩, others⟩ := List.forall_mem_cons.1 each
    obtain ⟨t', ht', -, -, same⟩ := weighs_add ht hx finite
    by_cases le : total.le p = true
    · -- the next sum is the same if nothing is added, and this one is not above the point
      have reached : t ≤ v := (le_iff_of_values ht.value hp).1 le
      have next (above : v < t') : 0 < b :=
        hx.nonneg.lt_of_ne fun none => above.not_ge ((same none.symm).trans_le reached)
      rw [sums_cons, passed_cons, if_pos le, List.getElem?_cons_succ]
      exact ih ht' others finite below hx next
    · rw [sums_cons, passed_cons, if_neg le]
      exact ⟨w, a, rfl, hw, last (not_le.1 fun h => le ((le_iff_of_values ht.value hp).2 h))⟩

end Sums

/-! ## Choices -/

variable {p : Single} {v : ℚ} {weights : List Single}

/-- Weights that allow a choice. -/
structure Choosable (weights : List Single) : Prop where
  nonneg : ∀ w ∈ weights, w.lt (.zero false) = false
  positive : ∃ w ∈ weights, (Binary.zero false).lt w = true

/-- Finite weights of which none is negative. -/
theorem weighs_of_finite {w : Single} (inFormat : w.InFormat) (finite : w.isFinite = true)
    (nonneg : w.lt (.zero false) = false) : ∃ a, Weighs w a := by
  obtain ⟨a, value⟩ := isFinite_iff.1 finite
  refine ⟨a, inFormat, value, not_lt.1 fun negative => ?_⟩
  rw [(lt_iff_of_values value (value?_zero false)).2 negative] at nonneg
  cases nonneg

theorem zero_le_iff {w : Single} (finite : w.isFinite = true) :
    (Binary.zero false).le w = true ↔ w.lt (.zero false) = false := by
  obtain ⟨a, value⟩ := isFinite_iff.1 finite
  rw [le_iff_of_values (value?_zero false) value, ← not_lt,
    ← lt_iff_of_values value (value?_zero false), Bool.not_eq_true]

theorem finite_of_cumulative (h : (cumulative weights).2.isFinite = true) :
    ∀ w ∈ weights, w.isFinite = true := by
  cases weights with
  | nil => exact fun _ hw => absurd hw List.not_mem_nil
  | cons w rest => exact List.forall_mem_cons.2 (finite_of_sums h)

/-- The sum of weights is a weight, and none of them is greater. -/
theorem weighs_cumulative (each : ∀ w ∈ weights, ∃ a, Weighs w a)
    (finite : (cumulative weights).2.isFinite = true) :
    ∃ s, Weighs (cumulative weights).2 s ∧ ∀ w ∈ weights, ∃ a, Weighs w a ∧ a ≤ s := by
  cases weights with
  | nil => exact ⟨0, ⟨inFormat_zero false, value?_zero false, le_rfl⟩,
      fun _ hw => absurd hw List.not_mem_nil⟩
  | cons w rest =>
    obtain ⟨⟨a, hw⟩, others⟩ := List.forall_mem_cons.1 each
    obtain ⟨s, hs, first, inner⟩ := weighs_sums hw others finite
    exact ⟨s, hs, List.forall_mem_cons.2 ⟨⟨a, hw, first⟩, inner⟩⟩

/-- Where the partial sums pass a point from zero up to the sum there is a positive weight. -/
theorem exists_positive (each : ∀ w ∈ weights, ∃ a, Weighs w a)
    (finite : (cumulative weights).2.isFinite = true) (hp : p.value? = some v) (nonneg : 0 ≤ v)
    (below : p.lt (cumulative weights).2 = true) :
    ∃ w, weights[passed p (cumulative weights).1]? = some w ∧
      (Binary.zero false).lt w = true := by
  cases weights with
  | nil =>
    have negative : v < 0 := (lt_iff_of_values hp (value?_zero false)).1 below
    exact absurd nonneg negative.not_ge
  | cons w rest =>
    obtain ⟨⟨a, hw⟩, others⟩ := List.forall_mem_cons.1 each
    obtain ⟨x, b, there, hx, positive⟩ :=
      exists_positive_of_sums hp hw others finite below hw nonneg.trans_lt
    exact ⟨x, there, hx.zero_lt_iff.2 positive⟩

/-- Weights are refused exactly if one is negative or none is positive. -/
theorem refused_eq_false_iff (inFormat : ∀ w ∈ weights, w.InFormat)
    (finite : (cumulative weights).2.isFinite = true) :
    (weights.isEmpty || !weights.all (Binary.zero false).le ||
        (cumulative weights).2.same (.zero false)) = false ↔ Choosable weights := by
  have each := finite_of_cumulative finite
  have weighs (nonneg : ∀ w ∈ weights, w.lt (.zero false) = false) :
      ∀ w ∈ weights, ∃ a, Weighs w a :=
    fun w hw => weighs_of_finite (inFormat w hw) (each w hw) (nonneg w hw)
  simp only [Bool.or_eq_false_iff, Bool.not_eq_eq_eq_not, Bool.not_false, List.all_eq_true]
  constructor
  · rintro ⟨⟨-, all⟩, nonzero⟩
    have nonneg (w : Single) (hw : w ∈ weights) : w.lt (.zero false) = false :=
      (zero_le_iff (each w hw)).1 (all w hw)
    obtain ⟨s, hs, -⟩ := weighs_cumulative (weighs nonneg) finite
    have positive : 0 < s := hs.nonneg.lt_of_ne fun zero => by
      rw [(same_iff_of_values hs.value (value?_zero false)).2 zero.symm] at nonzero
      cases nonzero
    -- a positive sum is passed somewhere from zero on
    obtain ⟨w, there, above⟩ := exists_positive (weighs nonneg) finite (value?_zero false) le_rfl
      (hs.zero_lt_iff.2 positive)
    exact ⟨nonneg, w, List.mem_of_getElem? there, above⟩
  · rintro ⟨nonneg, w, hw, positive⟩
    obtain ⟨s, hs, inner⟩ := weighs_cumulative (weighs nonneg) finite
    obtain ⟨a, ha, le⟩ := inner w hw
    have sum_pos : 0 < s := (ha.zero_lt_iff.1 positive).trans_le le
    refine ⟨⟨?_, fun x hx => (zero_le_iff (each x hx)).2 (nonneg x hx)⟩, ?_⟩
    · rw [List.isEmpty_eq_false_iff]
      exact List.ne_nil_of_mem hw
    · exact Bool.eq_false_iff.2 fun zero =>
        sum_pos.ne' ((same_iff_of_values hs.value (value?_zero false)).1 zero)

variable {α : Type} {entries : List (α × Single)}

/-- The sum of the weights. -/
def total (c : WeightedChoice α) : Single := (cumulative (c.entries.map (·.2))).2

/-- The point that a word draws. -/
def point (c : WeightedChoice α) (w : UInt32) : Single := Generator.coarseFraction w * c.total

/-- The place that a point chooses. -/
def place (c : WeightedChoice α) (p : Single) : ℕ :=
  passed p (cumulative (c.entries.map (·.2))).1

theorem index_eq (c : WeightedChoice α) (w : UInt32) : c.index w = c.place (c.point w) := rfl

/-- Weights that add up to no finite number, none of them negative. -/
structure Endless (weights : List Single) : Prop where
  nonneg : ∀ w ∈ weights, (Binary.zero false).le w = true
  infinite : (cumulative weights).2.isFinite = false

instance (weights : List Single) : Decidable (Endless weights) :=
  decidable_of_iff ((∀ w ∈ weights, (Binary.zero false).le w = true) ∧
    (cumulative weights).2.isFinite = false) ⟨fun h => ⟨h.1, h.2⟩, fun h => ⟨h.1, h.2⟩⟩

theorem Endless.ne_nil {weights : List Single} (h : Endless weights) : weights ≠ [] := by
  rintro rfl
  cases h.infinite

theorem ofEntries_of_choosable (inFormat : ∀ w ∈ entries.map (·.2), w.InFormat)
    (finite : (cumulative (entries.map (·.2))).2.isFinite = true)
    (choosable : Choosable (entries.map (·.2))) : ofEntries entries = .ok (some ⟨entries⟩) := by
  have accepted := (refused_eq_false_iff inFormat finite).2 choosable
  unfold ofEntries
  dsimp only
  rw [accepted, finite]
  rfl

theorem ofEntries_of_not_choosable (inFormat : ∀ w ∈ entries.map (·.2), w.InFormat)
    (finite : (cumulative (entries.map (·.2))).2.isFinite = true)
    (refused : ¬ Choosable (entries.map (·.2))) : ofEntries entries = .ok none := by
  rw [← refused_eq_false_iff inFormat finite, Bool.not_eq_false] at refused
  unfold ofEntries
  dsimp only
  rw [refused]
  rfl

/-- Endless weights, and no others, are a fault. -/
theorem ofEntries_eq_error_iff {fault : Fault} :
    ofEntries entries = .error fault ↔
      fault = .endlessWeights ∧ Endless (entries.map (·.2)) := by
  unfold ofEntries
  dsimp only
  constructor
  · intro h
    split at h
    · cases h
    · rename_i accepted
      split at h
      · cases h
      · rename_i infinite
        simp only [Bool.or_eq_true, not_or, Bool.not_eq_true'] at accepted
        have nonneg := List.all_eq_true.1 (Bool.eq_true_of_not_eq_false accepted.1.2)
        exact ⟨(Except.error.inj h).symm, nonneg, Bool.eq_false_iff.2 infinite⟩
  · rintro ⟨rfl, endless⟩
    have nonzero := same_zero_of_not_finite endless.infinite
    rw [List.isEmpty_eq_false_iff.2 endless.ne_nil, List.all_eq_true.2 endless.nonneg, nonzero,
      endless.infinite]
    rfl

/-- Every point chooses an entry. -/
theorem place_lt_length (c : WeightedChoice α) (given : c.entries ≠ []) (p : Single) :
    c.place p < c.entries.length := by
  unfold place passed
  cases same : c.entries with
  | nil => exact absurd same given
  | cons e rest =>
    refine Nat.lt_succ_of_le ((List.takeWhile_sublist _).length_le.trans ?_)
    rw [List.map_cons, cumulative, length_sums, List.length_map]

/-- The place is the number of partial sums that are not above the point. -/
theorem place_eq_countP (c : WeightedChoice α) (each : ∀ w ∈ c.entries.map (·.2), ∃ a, Weighs w a)
    (finite : c.total.isFinite = true) (hp : p.value? = some v) :
    c.place p = (cumulative (c.entries.map (·.2))).1.countP (·.le p) := by
  unfold place
  unfold total at finite
  cases same : c.entries.map (·.2) with
  | nil => rfl
  | cons w rest =>
    rw [same] at each finite
    obtain ⟨⟨a, hw⟩, others⟩ := List.forall_mem_cons.1 each
    exact passed_sums hp hw others finite

/-- A point from zero up to the sum chooses an entry with a positive weight. -/
theorem exists_entry (c : WeightedChoice α) (each : ∀ w ∈ c.entries.map (·.2), ∃ a, Weighs w a)
    (finite : c.total.isFinite = true) (hp : p.value? = some v) (nonneg : 0 ≤ v)
    (below : p.lt c.total = true) :
    ∃ e, c.entries[c.place p]? = some e ∧ (Binary.zero false).lt e.2 = true := by
  obtain ⟨w, there, positive⟩ := exists_positive each finite hp nonneg below
  rw [List.getElem?_map, Option.map_eq_some_iff] at there
  obtain ⟨e, there, rfl⟩ := there
  exact ⟨e, there, positive⟩

/-! ## Drawn points -/

variable {c : WeightedChoice α} {t : ℚ}

/-- A drawn point is not negative. -/
theorem value?_point (ht : Weighs c.total t) (w : UInt32) :
    ∃ v, (c.point w).value? = some v ∧ 0 ≤ v := by
  obtain ⟨n, bound, fraction⟩ := Generator.value?_coarseFraction w
  have less : (n : ℚ) < 2 ^ 23 := by exact_mod_cast bound
  have nonneg : 0 ≤ (n : ℚ) * 2 ^ (-23 : ℤ) * t := mul_nonneg (by positivity) ht.nonneg
  have within : (n : ℚ) * 2 ^ (-23 : ℤ) * t ≤ t := by
    refine mul_le_of_le_one_left ht.nonneg ?_
    norm_num
    linarith
  have rounds := rounds_mul fraction ht.value
  obtain ⟨v, hv⟩ := rounds.exists_value ht.holds (by rwa [abs_of_nonneg nonneg])
  exact ⟨v, hv, rounds.le hv ((inFormat_zero false).holds (value?_zero false)) nonneg⟩

/-- A drawn point is below the sum, unless the sum is so small that it lacks significand bits. -/
theorem point_lt_total (ht : Weighs c.total t) (normal : 2 ^ (-126 : ℤ) ≤ t) (w : UInt32) :
    (c.point w).lt c.total = true := by
  obtain ⟨v, hv, -⟩ := value?_point ht w
  obtain ⟨n, bound, fraction⟩ := Generator.value?_coarseFraction w
  obtain ⟨x, held, below, near⟩ := ht.holds.exists_below normal
  have most : (n : ℚ) ≤ 2 ^ 23 - 1 := by
    rw [le_sub_iff_add_le]
    exact_mod_cast Nat.succ_le_of_lt bound
  have product : (n : ℚ) * 2 ^ (-23 : ℤ) * t ≤ x := by
    have scaled : (n : ℚ) * t ≤ (2 ^ 23 - 1) * t := mul_le_mul_of_nonneg_right most ht.nonneg
    norm_num [Format.single] at near scaled ⊢
    linarith
  refine (lt_iff_of_values hv ht.value).2 (lt_of_le_of_lt ?_ below)
  exact (rounds_mul fraction ht.value).ge hv held product

/-- A word chooses one of the entries, and one with a positive weight if the point that it draws is
below the sum. -/
theorem exists_chosen (c : WeightedChoice α) (given : c.entries ≠ [])
    (each : ∀ w ∈ c.entries.map (·.2), ∃ a, Weighs w a) (finite : c.total.isFinite = true)
    (word : UInt32) :
    ∃ e ∈ c.entries, c.choose? word = some e.1 ∧
      ((c.point word).lt c.total = true → (Binary.zero false).lt e.2 = true) := by
  have there := List.getElem?_eq_getElem (c.place_lt_length given (c.point word))
  refine ⟨_, List.mem_of_getElem? there, ?_, fun below => ?_⟩
  · rw [choose?, index_eq, there]
    rfl
  · obtain ⟨t, ht, -⟩ := weighs_cumulative each finite
    obtain ⟨v, hp, nonneg⟩ := value?_point ht word
    obtain ⟨e, chosen, positive⟩ := c.exists_entry each finite hp nonneg below
    rw [there, Option.some.injEq] at chosen
    rwa [chosen]

end WeightedChoice

end EventRules
