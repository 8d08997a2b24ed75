/-
Lists of mobs against one another. A species counts as often as it is named, whatever the spelling of
its names. Two lists count alike where both have the same sum and no sum on the way leaves 32 bits,
or where both leave them. Where no species has a negative count, the order makes no difference
either: two lists that name the same species then count alike in every population exactly if they
name each species equally often, as far as 32 bits can tell. Naming the same species is not enough.
-/
import EventRules.Proofs.Count.Current
import EventRules.Proofs.Count.Mobs
import Mathlib.Algebra.BigOperators.Group.Finset.Basic

namespace EventRules.CountInfo

/-! ## Counts against one another -/

section Alike

variable {c c' : CountInfo} {population : Population} {e : Event}

theorem current_eq_current_iff :
    c.current population e = c'.current population e ↔
      (SumsFit 0 (c.numbers population e) ↔ SumsFit 0 (c'.numbers population e)) ∧
      (SumsFit 0 (c.numbers population e) → c.total population e = c'.total population e) := by
  by_cases fits : SumsFit 0 (c.numbers population e)
  · obtain ⟨n, counted⟩ := exists_current_iff.2 fits
    rw [counted, eq_comm, current_eq_ok_iff, (current_eq_ok_iff.1 counted).2]
    simp only [fits, true_iff, true_imp_iff]
  · rw [current_of_not_sumsFit fits]
    by_cases fits' : SumsFit 0 (c'.numbers population e)
    · obtain ⟨n, counted⟩ := exists_current_iff.2 fits'
      rw [counted]
      exact iff_of_false nofun fun h => fits (h.1.2 fits')
    · rw [current_of_not_sumsFit fits']
      exact iff_of_true rfl ⟨iff_of_false fits fits', fun h => absurd h fits⟩

/-- Where nothing is negative counts are alike if their true numbers are, as far as these fit. -/
theorem current_eq_current_iff_of_nonneg (nonneg : ∀ n ∈ c.numbers population e, 0 ≤ n)
    (nonneg' : ∀ n ∈ c'.numbers population e, 0 ≤ n) :
    c.current population e = c'.current population e ↔
      min (c.total population e) (2 ^ 31) = min (c'.total population e) (2 ^ 31) := by
  rw [current_eq_current_iff, sumsFit_iff_of_nonneg nonneg, sumsFit_iff_of_nonneg nonneg']
  unfold total
  omega

end Alike

/-! ## How often a species is named -/

section Multiplicity

variable {ids ids' : List ResourceId} {f : ResourceId → Int}

theorem sum_indicator (ids : List ResourceId) (id : ResourceId) :
    (ids.map fun x => if x = id then (1 : Int) else 0).sum = ids.count id := by
  induction ids with
  | nil => rfl
  | cons head rest ih =>
    rw [List.map_cons, List.sum_cons, ih, List.count_cons]
    by_cases h : head = id
    · simp [h, Int.add_comm]
    · simp [h]

/-- A species that is there has at least as many creatures in all as it is named times. -/
theorem count_le_sum {id : ResourceId} (nonneg : ∀ id, 0 ≤ f id) (there : 0 < f id)
    (ids : List ResourceId) : (ids.count id : Int) ≤ (ids.map f).sum := by
  rw [← sum_indicator]
  refine List.sum_le_sum fun x _ => ?_
  split
  · rename_i same
    rw [same]
    exact there
  · exact nonneg x

/-- Lists that name each species equally often, as far as a bound, have the same sum as far as this
bound. -/
theorem min_sum_eq_of_count {bound : Nat}
    (often : ∀ id, min (ids.count id) bound = min (ids'.count id) bound)
    (same : ∀ id, id ∈ ids ↔ id ∈ ids') (nonneg : ∀ id, 0 ≤ f id) :
    min (ids.map f).sum bound = min (ids'.map f).sum bound := by
  by_cases many : ∃ id, 0 < f id ∧ bound ≤ ids.count id
  · -- one species alone reaches the bound, with both lists
    obtain ⟨id, there, reached⟩ := many
    have reached' := often id
    have least := count_le_sum nonneg there ids
    have least' := count_le_sum nonneg there ids'
    omega
  · have members : ids'.toFinset = ids.toFinset := by
      ext id
      rw [List.mem_toFinset, List.mem_toFinset, same]
    rw [Finset.sum_list_map_count, Finset.sum_list_map_count, members]
    refine congrArg (min · _) (Finset.sum_congr rfl fun id _ => ?_)
    rcases (nonneg id).eq_or_lt with none | there
    · rw [← none, nsmul_zero, nsmul_zero]
    · have few : ids.count id < bound := Nat.lt_of_not_le fun reached => many ⟨id, there, reached⟩
      have alike := often id
      rw [show ids.count id = ids'.count id by omega]

end Multiplicity

/-! ## Lists of mobs -/

/-- A single creature of a species. -/
def lone (id : ResourceId) : Population :=
  { Host.bare.population with ofSpecies := fun _ other => if other = id then 1 else 0 }

theorem ofSpecies_lone (id : ResourceId) (w : World) (other : ResourceId) :
    ((lone id).ofSpecies w other).toInt = if other = id then 1 else 0 :=
  apply_ite Int32.toInt _ _ _

theorem headcounts_eq (population : Population) (w : World) (names : List String) :
    headcounts population w names =
      (speciesNamed names).map fun id => (population.ofSpecies w id).toInt := by
  rw [headcounts, speciesNamed, List.map_map]
  rfl

/-- Two lists of mobs that name the same species are accepted. In one population both count the same
exactly if both leave 32 bits on the way, or none does and the sums are equal. Both count the same
in every population without negative counts exactly if they name each species equally often, as far
as 32 bits tell. -/
theorem mobs_count_alike_iff (registry : Registry) (amount : Number) {names names' : List String}
    (some_named : names ≠ [])
    (known : ∀ name ∈ names, registry.hasEntity (.parse name) = true)
    (same : ∀ id, id ∈ speciesNamed names ↔ id ∈ speciesNamed names') :
    ∃ c c', ofJson registry (.object (listing amount names).entries) = .ok c ∧
      ofJson registry (.object (listing amount names').entries) = .ok c' ∧
      ∀ e,
        (∀ population, c.current population e = c'.current population e ↔
          (SumsFit 0 (headcounts population e.world names) ↔
            SumsFit 0 (headcounts population e.world names')) ∧
          (SumsFit 0 (headcounts population e.world names) →
            tally population e.world names = tally population e.world names')) ∧
        ((∀ population, (∀ id, 0 ≤ (population.ofSpecies e.world id).toInt) →
            c.current population e = c'.current population e) ↔
          ∀ id, min ((speciesNamed names).count id) (2 ^ 31) =
            min ((speciesNamed names').count id) (2 ^ 31)) := by
  have known' : ∀ name ∈ names', registry.hasEntity (.parse name) = true := by
    intro name there
    obtain ⟨name', there', same_id⟩ := List.mem_map.1 ((same _).2 (List.mem_map_of_mem there))
    rw [← same_id]
    exact known name' there'
  have some_named' : names' ≠ [] := by
    obtain ⟨name, there⟩ := List.exists_mem_of_ne_nil _ some_named
    obtain ⟨name', there', -⟩ := List.mem_map.1 ((same _).1 (List.mem_map_of_mem there))
    exact List.ne_nil_of_mem there'
  have accepted := ofJson_listing known amount
  have accepted' := ofJson_listing known' amount
  refine ⟨_, _, accepted, accepted', fun e => ?_⟩
  have numbers (population : Population) := Description.numbers_of_mobs
    (by rwa [mobs_listing]) accepted population e
  have numbers' (population : Population) := Description.numbers_of_mobs
    (by rwa [mobs_listing]) accepted' population e
  simp only [mobs_listing] at numbers numbers'
  constructor
  · intro population
    rw [current_eq_current_iff, total, total, numbers, numbers']
    rfl
  · have natural {population : Population}
        (counted : ∀ id, 0 ≤ (population.ofSpecies e.world id).toInt) :=
      current_eq_current_iff_of_nonneg (numbers population ▸ headcounts_nonneg counted names)
        (numbers' population ▸ headcounts_nonneg counted names')
    simp only [total, numbers, numbers', headcounts_eq] at natural
    constructor
    · intro alike id
      -- a single creature of this species tells how often it is named
      have counted (other : ResourceId) : 0 ≤ ((lone id).ofSpecies e.world other).toInt := by
        rw [ofSpecies_lone]
        split <;> decide
      have sums := (natural counted).1 (alike (lone id) counted)
      simp only [ofSpecies_lone, sum_indicator] at sums
      omega
    · intro often population counted
      exact (natural counted).2 (min_sum_eq_of_count often same counted)

/-- One creature of these mobs. -/
def anyOf (names : List String) : Json := .object (listing (.integer 1) names).entries

theorem mobs_count_alike_iff_swapped :
    ∃ c c', ofJson Host.bare.registry (anyOf ["cow", "pig"]) = .ok c ∧
      ofJson Host.bare.registry (anyOf ["minecraft:pig", "minecraft:cow"]) = .ok c' ∧
      ∀ population e, (∀ id, 0 ≤ (population.ofSpecies e.world id).toInt) →
        c.current population e = c'.current population e := by
  have swapped : (speciesNamed ["cow", "pig"]).Perm
      (speciesNamed ["minecraft:pig", "minecraft:cow"]) := .swap _ _ _
  obtain ⟨c, c', accepted, accepted', alike⟩ :=
    mobs_count_alike_iff Host.bare.registry (.integer 1) (List.cons_ne_nil _ _) (fun _ _ => rfl)
      fun _ => swapped.mem_iff
  refine ⟨c, c', accepted, accepted', fun population e => (alike e).2.2 (fun id => ?_) population⟩
  rw [swapped.count_eq]

/-- A mob that is named twice, with and without its namespace, is counted twice. -/
theorem repeated_mob_counted_twice :
    (∀ id, id ∈ speciesNamed ["cow"] ↔ id ∈ speciesNamed ["cow", "minecraft:cow"]) ∧
    ∃ c c', ofJson Host.bare.registry (anyOf ["cow"]) = .ok c ∧
      ofJson Host.bare.registry (anyOf ["cow", "minecraft:cow"]) = .ok c' ∧
      ∀ e, c.current herd e = .ok 3 ∧ c'.current herd e = .ok 6 := by
  have twice : speciesNamed ["cow", "minecraft:cow"] = [.parse "cow", .parse "cow"] := rfl
  refine ⟨fun id => ?_, _, _, ofJson_listing (fun _ _ => rfl) _, ofJson_listing (fun _ _ => rfl) _,
    fun e => ⟨?_, ?_⟩⟩
  · rw [twice]
    simp [speciesNamed]
  · show [3].foldlM addCount 0 = _
    decide
  · show [3, 3].foldlM addCount 0 = _
    decide

end EventRules.CountInfo
