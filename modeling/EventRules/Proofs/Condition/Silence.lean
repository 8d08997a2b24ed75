/-
Conditions that report nothing: a clause that takes something and is silent gives a test. The one
exception are biome types, where types without biomes give none and are not reported.
-/
import EventRules.Proofs.Condition.Alternatives
import EventRules.Proofs.Condition.Form

namespace EventRules

open Reported

/-! ## Lists of descriptions -/

/-- Silence means that no description was left out. -/
theorem ItemMatcher.length_listOfJson (registry : Registry) :
    ∀ {vs : List Json}, (listOfJson registry vs).reports = [] →
      (listOfJson registry vs).result.length = vs.length
  | [], _ => rfl
  | v :: rest, h => by
    rw [listOfJson, silent_bind, silent_bind] at h
    obtain ⟨first, others, -⟩ := h
    obtain ⟨-, m, -, hm⟩ := orReport_silent first
    rw [listOfJson, result_bind, result_bind, result_pure, hm, Option.toList_some,
      List.singleton_append, List.length_cons, length_listOfJson registry others, List.length_cons]

namespace Condition

theorem length_knownSpecies (registry : Registry) :
    ∀ {names : List String}, (knownSpecies registry names).reports = [] →
      (knownSpecies registry names).result.length = names.length
  | [], _ => rfl
  | name :: rest, h => by
    rw [knownSpecies, silent_bind, silent_bind] at h
    obtain ⟨first, others, -⟩ := h
    obtain ⟨id, hid⟩ := ofExcept_silent first
    rw [knownSpecies, result_bind, result_bind, result_pure, hid, result_ofExcept_ok,
      Option.toList_some, List.singleton_append, List.length_cons,
      length_knownSpecies registry others, List.length_cons]

theorem biomesOfTypes_eq_nil_iff (registry : Registry) :
    ∀ {names : List String}, (biomesOfTypes registry names).reports = [] →
      ((biomesOfTypes registry names).result = [] ↔
        ∀ name ∈ names, registry.biomesOfType (Text.upper name) = some [])
  | [], _ => by simp [biomesOfTypes]
  | name :: rest, h => by
    rw [biomesOfTypes] at h ⊢
    rcases hn : registry.biomesOfType (Text.upper name) with _ | found
    · rw [hn] at h
      cases h
    · rw [hn, silent_bind] at h
      rw [result_bind, result_pure, List.append_eq_nil_iff, biomesOfTypes_eq_nil_iff registry h.1,
        List.forall_mem_cons, hn, Option.some.injEq]

/-! ## Tests -/

theorem unless_empty_eq_none_iff {α β : Type} {values : List α} {b : β} :
    (if values.isEmpty = true then none else some b) = none ↔ values = [] := by
  rw [← List.isEmpty_iff]
  rcases values.isEmpty with _ | _
  · simp
  · simp

/-- Where nothing was left out of a list, what is made of the rest is there. -/
theorem isSome_unless_empty {α β γ : Type} {values : List α} {given : List γ} {b : β}
    (length : values.length = given.length) (filled : given ≠ []) :
    (if values.isEmpty = true then none else some b).isSome = true := by
  rw [Option.isSome_iff_ne_none, ne_eq, unless_empty_eq_none_iff]
  rintro rfl
  exact filled (List.length_eq_zero_iff.1 length.symm)

theorem isSome_itemsTest {registry : Registry} {descriptions : List Json}
    {holds : List ItemMatcher → Event → Bool} (filled : descriptions ≠ [])
    (silent : (itemsTest registry descriptions holds).reports = []) :
    (itemsTest registry descriptions holds).result.isSome = true :=
  isSome_unless_empty (ItemMatcher.length_listOfJson registry (silent_bind.1 silent).1) filled

theorem isSome_mobClause {host : Host} {names : List String} {companion : Option Json}
    (filled : names ≠ []) (silent : (mobClause.build host names companion).reports = []) :
    (mobClause.build host names companion).result.isSome = true := by
  have length := length_knownSpecies host.registry (silent_bind.1 silent).1
  have known : (knownSpecies host.registry names).result ≠ [] := by
    intro none
    rw [none] at length
    exact filled (List.length_eq_zero_iff.1 length.symm)
  obtain ⟨species, h⟩ := Alternatives.exists_of_ne_nil known
  show ((Alternatives.of? (knownSpecies host.registry names).result).map _).isSome = true
  rw [h]
  rfl

theorem isSome_oneOf {α : Type} [BEq α] {key : Key .string} {read : String → α}
    {subject : Event → α} {host : Host} {names : List String} {companion : Option Json}
    (filled : names ≠ []) :
    ((Clause.oneOf key read subject).build host names companion).result.isSome = true := by
  obtain ⟨values, h⟩ := Alternatives.exists_of_ne_nil (mt (List.map_eq_nil_iff (f := read)).1 filled)
  show ((Alternatives.of? (names.map read)).map _).isSome = true
  rw [h]
  rfl

theorem isSome_biomeClause {host : Host} {names : List String} {companion : Option Json}
    (filled : names ≠ []) : (biomeClause.build host names companion).result.isSome = true := by
  obtain ⟨ids, hi⟩ :=
    Alternatives.exists_of_ne_nil (mt (List.map_eq_nil_iff (f := ResourceId.parse)).1 filled)
  obtain ⟨values, hv⟩ := Alternatives.exists_of_ne_nil filled
  show ((Alternatives.of? (names.map ResourceId.parse)).bind fun ids =>
    (Alternatives.of? names).bind _).isSome = true
  rw [hi, Option.bind_some, hv]
  rfl

theorem isSome_blockTest {registry : Registry} {descriptions : List Json} {offset : Option Json}
    (silent : (blockTest registry descriptions offset).reports = []) :
    (blockTest registry descriptions offset).result.isSome = true := by
  unfold blockTest at silent ⊢
  dsimp only at silent ⊢
  split at silent
  · cases silent
  · obtain ⟨-, ms, -, hms⟩ := orReport_silent (silent_bind.1 silent).1
    rw [result_bind, result_pure, hms]
    rfl

/-- Biome types that are all known give a test unless none of them has biomes. -/
theorem isNone_biomeTypeClause {host : Host} {names : List String} {companion : Option Json}
    (silent : (biomeTypeClause.build host names companion).reports = []) :
    (biomeTypeClause.build host names companion).result = none ↔
      ∀ name ∈ names, host.registry.biomesOfType (Text.upper name) = some [] := by
  rw [← biomesOfTypes_eq_nil_iff host.registry (silent_bind.1 silent).1]
  exact unless_empty_eq_none_iff

end Condition

/-! ## Clauses -/

/-- The type of the values that are taken. -/
def Intake.type : Intake → ValueType
  | .first t => t
  | .every t => t

/-- Something was taken, if every value is taken. -/
def Intake.Filled : (i : Intake) → i.Carrier → Prop
  | .first _, _ => True
  | .every _, values => values ≠ ([] : List _)

/-- From values of its type a clause takes something. -/
theorem Intake.take_of_accepted {i : Intake} {values : List Json} (filled : values ≠ [])
    (accepted : ∀ v ∈ values, i.type.accepts v = true) :
    ∃ input, i.take values = some input ∧ i.Filled input := by
  obtain ⟨v, rest, rfl⟩ := List.exists_cons_of_ne_nil filled
  obtain ⟨a, ha⟩ := Option.isSome_iff_exists.1 (accepted v List.mem_cons_self)
  cases i with
  | first t => exact ⟨a, ha, trivial⟩
  | every t =>
    refine ⟨_, rfl, ?_⟩
    show List.filterMap t.extract (v :: rest) ≠ []
    rw [List.filterMap_cons_some (show t.extract v = some a from ha)]
    exact List.cons_ne_nil _ _

theorem Reported.isSome_of_silent {α β : Type} {x : Except Problem α} {f : α → β}
    (silent : (do
      let a ← ofExcept x
      return a.map f : Reported (Option β)).reports = []) :
    (do
      let a ← ofExcept x
      return a.map f : Reported (Option β)).result.isSome = true := by
  obtain ⟨a, rfl⟩ := ofExcept_silent (silent_bind.1 silent).1
  rfl

/-- A silent clause that takes something gives a test, biome types apart. -/
theorem Clause.Form.isSome_build {c : Clause} (form : c.Form)
    (other : c.keyword ≠ Keyword.biomeType.name) {host : Host} {input : c.intake.Carrier}
    {companion : Option Json} (filled : c.intake.Filled input)
    (silent : (c.build host input companion).reports = []) :
    (c.build host input companion).result.isSome = true := by
  cases form with
  | single key holds => rfl
  | oneOf key read subject => exact Condition.isSome_oneOf filled
  | weather => exact isSome_of_silent silent
  | difficulty => exact isSome_of_silent silent
  | everyDays => exact isSome_of_silent silent
  | state key current => exact isSome_of_silent silent
  | integrated capability key holds => rfl
  | block => exact Condition.isSome_blockTest silent
  | biome => exact Condition.isSome_biomeClause filled
  | biomeType => exact absurd rfl other
  | equipment key slots => exact Condition.isSome_itemsTest filled silent
  | bauble key slot => exact Condition.isSome_itemsTest filled silent
  | mob => exact Condition.isSome_mobClause filled silent
  | count passes bound => exact isSome_of_silent silent

theorem Clause.isSome_check_of_silent {c : Clause} {host : Host} {m : AttributeMap}
    {values : List Json} {input : c.intake.Carrier} (hv : m.values.get? c.keyword = some values)
    (hi : c.intake.take values = some input) (silent : (c.check host m).reports = []) :
    (c.build host input (c.companion.bind m.get?)).reports = [] ∧
      (c.check host m).result.isSome =
        (c.build host input (c.companion.bind m.get?)).result.isSome := by
  rw [check_of_input hv hi] at silent ⊢
  have built : c.test host input (c.companion.bind m.get?) =
      c.build host input (c.companion.bind m.get?) := by
    have silent := (silent_bind.1 silent).1
    unfold Clause.test at silent ⊢
    split at silent
    · rfl
    · split at silent
      · rename_i there
        exact if_pos there
      · cases silent
  rw [built] at silent ⊢
  exact ⟨(silent_bind.1 silent).1, Option.isSome_map ..⟩

end EventRules
