/-
What an accepted description counts. The order in which the condition looks at mod, category and
species cannot drop a filter: what a description says and what is counted agree, case by case. Counts
of several species are added in 32 bits one after the other: there is a sum if every sum on the way
fits, and then it is the true one.
-/
import EventRules.Proofs.Count.Description
import EventRules.Proofs.Rule.Kind
import Mathlib.Algebra.Order.BigOperators.Group.List

namespace EventRules.CountInfo

/-! ## Sums -/

/-- A number of creatures that fits 32 bits. -/
def Fits (n : Int) : Prop := -2 ^ 31 ≤ n ∧ n < 2 ^ 31

/-- Every sum on the way from a number over a list fits. -/
def SumsFit (n : Int) (l : List Int) : Prop := ∀ part, part <+: l → Fits (n + part.sum)

section Sums

variable {n : Int} {l : List Int} {a b sum : Int32} {counts : List Int32}

theorem fits_toInt (a : Int32) : Fits a.toInt := ⟨a.le_toInt, a.toInt_lt⟩

theorem SumsFit.start (h : SumsFit n l) : Fits n := by
  have first := h [] List.nil_prefix
  rwa [List.sum_nil, Int.add_zero] at first

theorem SumsFit.total (h : SumsFit n l) : Fits (n + l.sum) := h l (List.prefix_refl l)

theorem sumsFit_nil : SumsFit n [] ↔ Fits n := by
  refine ⟨SumsFit.start, fun h part first => ?_⟩
  rwa [List.prefix_nil.1 first, List.sum_nil, Int.add_zero]

theorem sumsFit_cons {x : Int} : SumsFit n (x :: l) ↔ Fits n ∧ SumsFit (n + x) l := by
  constructor
  · intro h
    refine ⟨h.start, fun part first => ?_⟩
    have longer := h (x :: part) (List.cons_prefix_cons.2 ⟨rfl, first⟩)
    rwa [List.sum_cons, ← Int.add_assoc] at longer
  · rintro ⟨start, others⟩ part first
    rcases part with _ | ⟨y, part⟩
    · rwa [List.sum_nil, Int.add_zero]
    · obtain ⟨rfl, shorter⟩ := List.cons_prefix_cons.1 first
      rw [List.sum_cons, ← Int.add_assoc]
      exact others part shorter

/-- Where nothing is negative the sums grow, and the last one tells of all. -/
theorem sumsFit_iff_of_nonneg (nonneg : ∀ x ∈ l, 0 ≤ x) : SumsFit 0 l ↔ l.sum < 2 ^ 31 := by
  refine ⟨fun h => ?_, fun total part first => ?_⟩
  · have all := h.total.2
    rwa [Int.zero_add] at all
  · obtain ⟨rest, rfl⟩ := first
    rw [List.sum_append] at total
    have part_nonneg : 0 ≤ part.sum :=
      List.sum_nonneg fun x there => nonneg x (List.mem_append_left _ there)
    have rest_nonneg : 0 ≤ rest.sum :=
      List.sum_nonneg fun x there => nonneg x (List.mem_append_right _ there)
    exact ⟨by omega, by omega⟩

theorem fits_iff (n : Int) :
    Fits n ↔ Int32.minValue.toInt ≤ n ∧ n ≤ Int32.maxValue.toInt := by
  rw [Int32.toInt_minValue, Int32.toInt_maxValue, Fits]
  omega

theorem addCount_of_fits (h : Fits (a.toInt + b.toInt)) :
    ∃ sum, addCount a b = .ok sum ∧ sum.toInt = a.toInt + b.toInt :=
  ⟨.ofInt (a.toInt + b.toInt), if_pos ((fits_iff _).1 h), Int32.toInt_ofInt_of_le h.1 h.2⟩

theorem addCount_of_not_fits (h : ¬Fits (a.toInt + b.toInt)) :
    addCount a b = .error .countOverflow := if_neg fun inside => h ((fits_iff _).2 inside)

/-- Counts whose sums on the way fit have the true sum. -/
theorem foldlM_addCount_of_sumsFit (h : SumsFit a.toInt (counts.map Int32.toInt)) :
    ∃ sum, counts.foldlM addCount a = .ok sum ∧
      sum.toInt = a.toInt + (counts.map Int32.toInt).sum := by
  induction counts generalizing a with
  | nil => exact ⟨a, rfl, (Int.add_zero _).symm⟩
  | cons b rest ih =>
    obtain ⟨-, others⟩ := sumsFit_cons.1 h
    obtain ⟨next, added, exact_next⟩ := addCount_of_fits others.start
    rw [← exact_next] at others
    obtain ⟨sum, summed, exact_sum⟩ := ih others
    refine ⟨sum, ?_, ?_⟩
    · rw [List.foldlM_cons, added]
      exact summed
    · rw [exact_sum, exact_next, List.map_cons, List.sum_cons, Int.add_assoc]

theorem foldlM_addCount_of_not_sumsFit (h : ¬SumsFit a.toInt (counts.map Int32.toInt)) :
    counts.foldlM addCount a = .error .countOverflow := by
  induction counts generalizing a with
  | nil => exact absurd (sumsFit_nil.2 (fits_toInt a)) h
  | cons b rest ih =>
    rw [List.foldlM_cons]
    by_cases fits : Fits (a.toInt + b.toInt)
    · obtain ⟨next, added, exact_next⟩ := addCount_of_fits fits
      rw [added]
      refine ih fun others => h (sumsFit_cons.2 ⟨fits_toInt a, ?_⟩)
      rwa [← exact_next]
    · rw [addCount_of_not_fits fits]
      rfl

/-- Counts have a sum exactly if every sum on the way fits, and it is the true one. -/
theorem foldlM_addCount_eq_ok_iff :
    counts.foldlM addCount a = .ok sum ↔ SumsFit a.toInt (counts.map Int32.toInt) ∧
      sum.toInt = a.toInt + (counts.map Int32.toInt).sum := by
  by_cases h : SumsFit a.toInt (counts.map Int32.toInt)
  · obtain ⟨total, summed, exact_total⟩ := foldlM_addCount_of_sumsFit h
    rw [summed, Except.ok.injEq, and_iff_right h, ← exact_total, Int32.toInt_inj, eq_comm]
  · rw [foldlM_addCount_of_not_sumsFit h]
    exact iff_of_false nofun fun both => h both.1

end Sums

/-! ## The creatures -/

/-- The counts that are added up. -/
def counts (c : CountInfo) (population : Population) (e : Event) : List Int32 :=
  match c.space, c.category with
  | some space, category => [currentOfMod population e.world space category]
  | none, some .hostile => [population.hostile e.world]
  | none, some .passive => [population.passive e.world]
  | none, none =>
    match c.species with
    | [] => [population.ofSpecies e.world e.entity.species]
    | species => species.map (population.ofSpecies e.world)

/-- The numbers that are added up, however large. -/
def numbers (c : CountInfo) (population : Population) (e : Event) : List Int :=
  (c.counts population e).map Int32.toInt

/-- The creatures that are counted, however many. -/
def total (c : CountInfo) (population : Population) (e : Event) : Int :=
  (c.numbers population e).sum

theorem current_eq (c : CountInfo) (population : Population) (e : Event) :
    c.current population e = (c.counts population e).foldlM addCount 0 := by
  have alone (n : Int32) : .ok n = [n].foldlM addCount 0 := by
    refine (foldlM_addCount_eq_ok_iff.2 ⟨?_, ?_⟩).symm
    · refine sumsFit_cons.2 ⟨fits_toInt 0, sumsFit_nil.2 ?_⟩
      rw [Int32.toInt_zero, Int.zero_add]
      exact fits_toInt n
    · rw [List.map_cons, List.map_nil, List.sum_singleton, Int32.toInt_zero, Int.zero_add]
  obtain ⟨amount, species, _ | space, _ | _ | _, scale⟩ := c
  case none.none =>
    cases species with
    | nil => exact alone _
    | cons id ids => rfl
  -- all counts but those of named species are single ones
  all_goals exact alone _

section Creatures

variable {c : CountInfo} {population : Population} {e : Event}

/-- There is a count exactly if every sum on the way to it fits, and it is the true one. -/
theorem current_eq_ok_iff {n : Int32} :
    c.current population e = .ok n ↔
      SumsFit 0 (c.numbers population e) ∧ n.toInt = c.total population e := by
  rw [current_eq, foldlM_addCount_eq_ok_iff, Int32.toInt_zero, Int.zero_add]
  rfl

theorem exists_current_iff :
    (∃ n, c.current population e = .ok n) ↔ SumsFit 0 (c.numbers population e) := by
  refine ⟨fun ⟨n, counted⟩ => (current_eq_ok_iff.1 counted).1, fun fits => ?_⟩
  obtain ⟨n, summed, -⟩ := foldlM_addCount_of_sumsFit (a := 0) fits
  exact ⟨n, (current_eq c population e).trans summed⟩

/-- Where nothing is negative, it is enough that all together fit. -/
theorem exists_current_of_nonneg (nonneg : ∀ n ∈ c.numbers population e, 0 ≤ n)
    (small : c.total population e < 2 ^ 31) : ∃ n, c.current population e = .ok n :=
  exists_current_iff.2 ((sumsFit_iff_of_nonneg nonneg).2 small)

theorem current_of_not_sumsFit (h : ¬SumsFit 0 (c.numbers population e)) :
    c.current population e = .error .countOverflow :=
  (current_eq c population e).trans (foldlM_addCount_of_not_sumsFit h)

end Creatures

/-! ## What a description counts -/

/-- The numbers of the creatures of mobs, one for every name. -/
def headcounts (population : Population) (w : World) (names : List String) : List Int :=
  names.map fun name => (population.ofSpecies w (.parse name)).toInt

/-- The creatures of mobs, a mob that is named twice counted twice. -/
def tally (population : Population) (w : World) (names : List String) : Int :=
  (headcounts population w names).sum

theorem headcounts_nonneg {population : Population} {w : World}
    (counted : ∀ id, 0 ≤ (population.ofSpecies w id).toInt) (names : List String) :
    ∀ n ∈ headcounts population w names, 0 ≤ n := by
  intro n there
  obtain ⟨name, -, rfl⟩ := List.mem_map.1 there
  exact counted _

namespace Description

/-- What comes of counting is what a description asks for. Several mobs have a count exactly if
every sum on the way fits 32 bits; so they do if no number is negative and the sum of all fits. -/
structure Counts (d : Description) (population : Population) (e : Event)
    (counted : Except Fault Int32) : Prop where
  hostile_of_mod : ∀ space, d.space = some space → d.flag "hostile" = true →
    counted = .ok (population.hostileOfMod e.world space)
  passive_of_mod : ∀ space, d.space = some space → d.flag "passive" = true →
    counted = .ok (population.passiveOfMod e.world space)
  all_of_mod : ∀ space, d.space = some space → d.flag "hostile" = false → d.flag "passive" = false →
    counted = .ok (population.ofMod e.world space)
  hostile : d.space = none → d.flag "hostile" = true →
    counted = .ok (population.hostile e.world)
  passive : d.space = none → d.flag "passive" = true →
    counted = .ok (population.passive e.world)
  own : d.space = none → d.flag "hostile" = false → d.flag "passive" = false → d.mobs = [] →
    counted = .ok (population.ofSpecies e.world e.entity.species)
  named : d.mobs ≠ [] → ∀ n, counted = .ok n ↔
    SumsFit 0 (headcounts population e.world d.mobs) ∧ n.toInt = tally population e.world d.mobs
  overflow : d.mobs ≠ [] → ¬SumsFit 0 (headcounts population e.world d.mobs) →
    counted = .error .countOverflow
  natural : d.mobs ≠ [] → (∀ n ∈ headcounts population e.world d.mobs, 0 ≤ n) →
    tally population e.world d.mobs < 2 ^ 31 →
      ∃ n, counted = .ok n ∧ n.toInt = tally population e.world d.mobs

variable {d : Description} {registry : Registry} {population : Population} {e : Event}

/-- An object that names mobs has their numbers added up. -/
theorem numbers_of_mobs {c : CountInfo} (named : d.mobs ≠ [])
    (accepted : ofJson registry (.object d.entries) = .ok c) (population : Population) (e : Event) :
    c.numbers population e = headcounts population e.world d.mobs := by
  obtain ⟨species, space, category⟩ := counted accepted
  obtain ⟨unnamed, passive, hostile⟩ := (exists_ofJson_iff.1 ⟨c, accepted⟩).mobs_alone named
  obtain ⟨name, names, mobs⟩ := List.exists_cons_of_ne_nil named
  have summands : c.counts population e =
      (d.mobs.map .parse).map (population.ofSpecies e.world) := by
    unfold counts
    rw [space, unnamed, category, passive, hostile, species, mobs]
    rfl
  rw [numbers, summands, List.map_map, List.map_map]
  rfl

theorem counts_current {c : CountInfo} (consistent : d.Consistent registry)
    (h : ofJson registry (.object d.entries) = .ok c) :
    d.Counts population e (c.current population e) := by
  obtain ⟨species, space, category⟩ := counted h
  have one : d.flag "hostile" = true → d.flag "passive" = false := fun hostile =>
    Bool.eq_false_iff.2 fun passive => consistent.one_category ⟨passive, hostile⟩
  constructor
  case hostile_of_mod =>
    intro name named hostile
    simp [current, space, named, category, one hostile, hostile, currentOfMod]
  case passive_of_mod =>
    intro name named passive
    simp [current, space, named, category, passive, currentOfMod]
  case all_of_mod =>
    intro name named hostile passive
    simp [current, space, named, category, hostile, passive, currentOfMod]
  case hostile =>
    intro unnamed hostile
    simp [current, space, unnamed, category, one hostile, hostile]
  case passive =>
    intro unnamed passive
    simp [current, space, unnamed, category, passive]
  case own =>
    intro unnamed hostile passive none
    simp [current, space, unnamed, category, hostile, passive, species, none]
  case named =>
    intro named n
    rw [current_eq_ok_iff, total, numbers_of_mobs named h]
    rfl
  case overflow =>
    intro named overflows
    rw [← numbers_of_mobs named h] at overflows
    exact current_of_not_sumsFit overflows
  case natural =>
    intro named nonneg small
    rw [tally, ← numbers_of_mobs named h population e] at small
    rw [← numbers_of_mobs named h population e] at nonneg
    obtain ⟨n, current_eq⟩ := exists_current_of_nonneg nonneg small
    refine ⟨n, current_eq, ?_⟩
    rw [(current_eq_ok_iff.1 current_eq).2, total, numbers_of_mobs named h]
    rfl

end Description

open Description

/-- An object that describes a count is accepted exactly if it is consistent, and an accepted one
counts what it says. -/
theorem object_accepted_iff_consistent (registry : Registry) (d : Description) :
    ((∃ c, ofJson registry (.object d.entries) = .ok c) ↔ d.Consistent registry) ∧
      ∀ c, ofJson registry (.object d.entries) = .ok c →
        ∀ population e, d.Counts population e (c.current population e) :=
  ⟨exists_ofJson_iff, fun c h _ _ => counts_current (exists_ofJson_iff.1 ⟨c, h⟩) h⟩

/-- A description of the cows and the pigs together, by their names with and without a namespace. -/
def livestock : Description :=
  .ofPairs [("amount", .number (.integer 40)),
    ("mob", .array [.string "cow", .string "minecraft:pig"]), ("perplayer", .bool true)]

/-- A herd of three cows and of four of every other species. -/
def herd : Population :=
  { Host.bare.population with ofSpecies := fun _ id => if id = .parse "minecraft:cow" then 3 else 4 }

theorem object_accepted_iff_consistent_livestock :
    ∃ c, ofJson Host.bare.registry (.object livestock.entries) = .ok c ∧
      ∀ e, ∃ n, c.current herd e = .ok n ∧ n.toInt = 7 := by
  refine ⟨_, rfl, fun e => ?_⟩
  have counts := (object_accepted_iff_consistent Host.bare.registry livestock).2 _ rfl herd e
  have numbers : headcounts herd e.world livestock.mobs = [3, 4] := rfl
  have total : tally herd e.world livestock.mobs = 7 := rfl
  have natural := counts.natural (by decide)
  rw [numbers, total] at natural
  exact natural (by decide) (by decide)

/-- A description of three mobs together. -/
def horde : Description :=
  .ofPairs [("amount", .number (.integer 1)),
    ("mob", .array [.string "zombie", .string "husk", .string "skeleton"])]

/-- As many zombies as 32 bits can count, a husk, and one creature less than none of every other
species. -/
def miscounted : Population :=
  { Host.bare.population with
    ofSpecies := fun _ id =>
      if id = .parse "zombie" then 2147483647 else if id = .parse "husk" then 1 else -1 }

/-- A sum that fits is not counted if a sum before it does not fit. -/
theorem fitting_sum_not_counted :
    ∃ c, ofJson Host.bare.registry (.object horde.entries) = .ok c ∧
      ∀ e, headcounts miscounted e.world horde.mobs = [2147483647, 1, -1] ∧
        Fits (tally miscounted e.world horde.mobs) ∧
        c.current miscounted e = .error .countOverflow := by
  refine ⟨_, rfl, fun e => ?_⟩
  have numbers : headcounts miscounted e.world horde.mobs = [2147483647, 1, -1] := by
    show [Int32.toInt 2147483647, Int32.toInt 1, Int32.toInt (-1)] = _
    decide
  refine ⟨numbers, ?_, ?_⟩
  · rw [tally, numbers]
    exact ⟨by decide, by decide⟩
  · show [2147483647, 1, -1].foldlM addCount 0 = _
    decide

end EventRules.CountInfo
