/-
Trimming as a division of a text: blanks, what is left, and blanks again, where what is left neither
begins nor ends with a blank. There is one such division, and `trim` finds it.
-/
import EventRules.Text.Blank
import Mathlib.Data.List.TakeWhile

namespace EventRules.Text

/-- `core` is a text without the blanks at its ends. -/
structure Trimmed (cs core : List Char) : Prop where
  around : ∃ before after, cs = before ++ (core ++ after) ∧
    (∀ c ∈ before, isBlank c = true) ∧ ∀ c ∈ after, isBlank c = true
  first : ∀ c ∈ core.head?, isBlank c = false
  last : ∀ c ∈ core.getLast?, isBlank c = false

/-! ## The end of a text -/

theorem trimEnd_of_blank {after : List Char} (blank : ∀ c ∈ after, isBlank c = true) :
    trimEnd after = [] := by
  induction after with
  | nil => rfl
  | cons c rest ih =>
    obtain ⟨first, others⟩ := List.forall_mem_cons.1 blank
    rw [trimEnd, ih others]
    exact if_pos first

theorem trimEnd_append {core after : List Char} (last : ∀ c ∈ core.getLast?, isBlank c = false)
    (blank : ∀ c ∈ after, isBlank c = true) : trimEnd (core ++ after) = core := by
  induction core with
  | nil => exact trimEnd_of_blank blank
  | cons c rest ih =>
    cases rest with
    | nil =>
      rw [List.singleton_append, trimEnd, trimEnd_of_blank blank]
      exact if_neg (by simp [last c rfl])
    | cons d rest =>
      rw [List.getLast?_cons_cons] at last
      rw [List.cons_append, trimEnd, ih last]

theorem exists_blank_after_trimEnd (cs : List Char) :
    ∃ after, cs = trimEnd cs ++ after ∧ ∀ c ∈ after, isBlank c = true := by
  induction cs with
  | nil => exact ⟨[], rfl, fun _ h => by cases h⟩
  | cons c rest ih =>
    obtain ⟨after, split, blank⟩ := ih
    rw [trimEnd]
    rcases h : trimEnd rest with _ | ⟨d, kept⟩
    · rw [h, List.nil_append] at split
      subst split
      by_cases hc : isBlank c = true
      · exact ⟨c :: rest, by simp [hc], List.forall_mem_cons.2 ⟨hc, blank⟩⟩
      · exact ⟨rest, by simp [hc], blank⟩
    · rw [h] at split
      exact ⟨after, by rw [List.cons_append, ← split], blank⟩

theorem getLast?_trimEnd (cs : List Char) : ∀ c ∈ (trimEnd cs).getLast?, isBlank c = false := by
  induction cs with
  | nil => exact fun _ h => by cases h
  | cons c rest ih =>
    rw [trimEnd]
    rcases h : trimEnd rest with _ | ⟨d, kept⟩
    · by_cases hc : isBlank c = true
      · simp [hc]
      · simp [hc]
    · rw [h] at ih
      simpa [List.getLast?_cons_cons] using ih

/-! ## Both ends -/

theorem trimmed_trim (cs : List Char) : Trimmed cs (trim cs) where
  around := by
    obtain ⟨after, split, blank⟩ := exists_blank_after_trimEnd (cs.dropWhile isBlank)
    refine ⟨cs.takeWhile isBlank, after, ?_, fun c hc => List.mem_takeWhile_imp hc, blank⟩
    rw [trim, ← split, List.takeWhile_append_dropWhile]
  first := by
    -- what is left begins, if it begins at all, where the leading blanks end
    obtain ⟨after, split, -⟩ := exists_blank_after_trimEnd (cs.dropWhile isBlank)
    intro c hc
    have stop := List.head?_dropWhile_not isBlank cs
    rw [split, List.head?_append, show (trimEnd (cs.dropWhile isBlank)).head? = some c from hc]
      at stop
    exact stop
  last := getLast?_trimEnd _

/-- The blanks at the ends of a text can be taken off in one way only. -/
theorem trimmed_iff {cs core : List Char} : Trimmed cs core ↔ core = trim cs := by
  refine ⟨fun ⟨⟨before, after, split, hb, ha⟩, first, last⟩ => ?_, fun h => h ▸ trimmed_trim cs⟩
  rw [trim, split, List.dropWhile_append_of_pos hb]
  cases core with
  | nil =>
    rw [List.nil_append, List.dropWhile_eq_nil_iff.2 ha]
    rfl
  | cons c rest =>
    rw [List.cons_append, List.dropWhile_cons_of_neg (by simp [first c rfl]), ← List.cons_append,
      trimEnd_append last ha]

/-! ## Texts with nothing to trim -/

/-- A text that does not end with a blank. -/
def Ended (cs : List Char) : Prop := ∀ c ∈ cs.getLast?, isBlank c = false

/-- A text that neither begins nor ends with a blank. -/
structure Bare (cs : List Char) : Prop where
  first : ∀ c ∈ cs.head?, isBlank c = false
  last : Ended cs

variable {cs before after : List Char}

instance : Decidable (Ended cs) :=
  decidable_of_iff (cs.getLast?.all (!isBlank ·) = true) (by
    simp only [Ended, Option.all_eq_true, Option.mem_def, Bool.not_eq_true'])

instance : Decidable (Bare cs) :=
  decidable_of_iff (cs.head?.all (!isBlank ·) = true ∧ Ended cs) (by
    rw [Option.all_eq_true]
    exact ⟨fun h => ⟨fun c hc => by simpa using h.1 c hc, h.2⟩,
      fun h => ⟨fun c hc => by simpa using h.first c hc, h.last⟩⟩)

theorem Ended.append (hb : Ended before) (ha : Ended after) : Ended (before ++ after) := by
  intro c hc
  rw [List.getLast?_append, Option.mem_def, Option.or_eq_some_iff] at hc
  rcases hc with hc | ⟨-, hc⟩
  · exact ha c hc
  · exact hb c hc

/-- A text ends as what stands last in it. -/
theorem Ended.behind (ha : Ended after) (filled : after ≠ []) (before : List Char) :
    Ended (before ++ after) := by
  intro c hc
  rw [List.getLast?_append, Option.mem_def, Option.or_eq_some_iff] at hc
  rcases hc with hc | ⟨nothing, -⟩
  · exact ha c hc
  · exact absurd (List.getLast?_eq_none_iff.1 nothing) filled

theorem ended_cons {c : Char} (solid : isBlank c = false) (h : Ended cs) : Ended (c :: cs) := by
  have mark : Ended [c] := by
    rintro _ ⟨⟩
    exact solid
  exact mark.append h

theorem Ended.of_suffix (h : Ended cs) (suffix : after <:+ cs) : Ended after := by
  intro c hc
  obtain ⟨before, rfl⟩ := suffix
  refine h c ?_
  rw [List.getLast?_append, Option.mem_def.1 hc, Option.some_or]
  rfl

theorem Bare.append (hb : Bare before) (filled : before ≠ []) (ha : Ended after) :
    Bare (before ++ after) where
  first := by
    obtain ⟨c, rest, rfl⟩ := List.exists_cons_of_ne_nil filled
    exact hb.first
  last := hb.last.append ha

theorem bare_of_solid (solid : ∀ c ∈ cs, isBlank c = false) : Bare cs where
  first c hc := solid c (List.mem_of_mem_head? hc)
  last c hc := solid c (List.mem_of_getLast? hc)

theorem bare_trim (cs : List Char) : Bare (trim cs) :=
  ⟨(trimmed_trim cs).first, (trimmed_trim cs).last⟩

theorem trim_of_bare (h : Bare cs) : trim cs = cs := by
  have whole : Trimmed cs cs := {
    around := ⟨[], [], by simp, List.forall_mem_nil _, List.forall_mem_nil _⟩
    first := h.first
    last := h.last }
  exact (trimmed_iff.1 whole).symm

theorem mem_of_mem_trim {c : Char} (h : c ∈ trim cs) : c ∈ cs := by
  obtain ⟨before, after, split, -, -⟩ := (trimmed_trim cs).around
  rw [split]
  exact List.mem_append_right _ (List.mem_append_left _ h)

/-- Only of blanks nothing is left. -/
theorem trim_ne_nil {c : Char} (there : c ∈ cs) (solid : isBlank c = false) : trim cs ≠ [] := by
  intro nothing
  obtain ⟨before, after, split, hb, ha⟩ := (trimmed_trim cs).around
  rw [nothing, List.nil_append] at split
  rw [split, List.mem_append] at there
  rcases there with there | there
  · rw [hb c there] at solid
    cases solid
  · rw [ha c there] at solid
    cases solid

end EventRules.Text
