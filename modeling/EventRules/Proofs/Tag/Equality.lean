/-
Equality of tags and of compounds, which compares floating-point numbers as numbers: equal tags hold
the same integer, and equal compounds file equal tags under the same names. A tag need not equal
itself, but one that is made of a JSON value without not-a-number does.
-/
import EventRules.Tag.Basic
import EventRules.Proofs.Binary.Comparison
import EventRules.Proofs.Json.Number
import Mathlib.Data.Option.Basic

namespace EventRules

/-! ## Equal tags -/

namespace Tag

variable {t t' : Tag}

theorem int?_of_same (h : t.same t' = true) : t.int? = t'.int? := by
  -- tags of different kinds are never equal
  cases t <;> cases t' <;> try cases h
  case byte.byte v v' => rw [beq_iff_eq.1 h]
  case short.short v v' => rw [beq_iff_eq.1 h]
  case int.int v v' => rw [beq_iff_eq.1 h]
  case long.long v v' => rw [beq_iff_eq.1 h]
  case float.float v v' => exact congrArg some (Binary.toInt32_of_same h)
  case double.double v v' => exact congrArg some (Binary.toInt32_of_same h)
  case string.string s s' => rfl
  case list.list items items' => rfl
  case compound.compound c c' => rfl

theorem same_list {items : List Tag} (h : (Tag.list items).same t' = true) :
    ∃ items', t' = .list items' ∧ sameItems items items' = true := by
  cases t' <;> try cases h
  case list items' => exact ⟨items', rfl, h⟩

theorem same_compound {c : Compound} (h : (Tag.compound c).same t' = true) :
    ∃ c', t' = .compound c' ∧ Compound.same c c' = true := by
  cases t' <;> try cases h
  case compound c' => exact ⟨c', rfl, h⟩

/-- Each tag in a list has its equal in an equal list. -/
theorem exists_same_of_mem : ∀ {items items' : List Tag}, sameItems items items' = true →
    ∀ t ∈ items, ∃ t' ∈ items', t.same t' = true
  | [], _, _, t, there => by cases there
  | _ :: _, [], h, _, _ => by cases h
  | first :: rest, first' :: rest', h, t, there => by
    obtain ⟨head, tail⟩ := Bool.and_eq_true_iff.1 h
    rcases List.mem_cons.1 there with rfl | there
    · exact ⟨first', List.mem_cons_self, head⟩
    · obtain ⟨t', there', equal⟩ := exists_same_of_mem tail t there
      exact ⟨t', List.mem_cons_of_mem _ there', equal⟩

end Tag

/-! ## Equal compounds -/

theorem Compound.find?_of_same (key : String) : ∀ {c c' : Compound}, Compound.same c c' = true →
    Option.Rel (fun t t' => t.same t' = true) (Entries.find? key c) (Entries.find? key c')
  | [], [], _ => .none
  | [], _ :: _, h => by cases h
  | _ :: _, [], h => by cases h
  | (k, t) :: rest, (k', t') :: rest', h => by
    obtain ⟨head, tail⟩ := Bool.and_eq_true_iff.1 h
    obtain ⟨named, equal⟩ := Bool.and_eq_true_iff.1 head
    obtain rfl := beq_iff_eq.1 named
    unfold Entries.find?
    split
    · exact .some equal
    · exact find?_of_same key tail

/-! ## Tags of JSON values -/

theorem Tag.same_self_of_number {n : Number} {t : Tag} (proper : n.Proper)
    (h : Tag.ofJson (.number n) = some t) : t.same t = true := by
  rw [Tag.ofJson] at h
  split at h
  · split at h
    · cases h
      exact beq_self_eq_true _
    · cases h
      exact beq_self_eq_true _
  · cases h
    refine Binary.same_self_iff.2 ?_
    cases n with
    | integer n => exact Binary.ofRatio_ne_nan _ _ _
    | float x => exact fun nan => proper (congrArg Number.float nan)

mutual

/-- A tag made of a value without not-a-number equals itself. -/
theorem Tag.same_self_of_ofJson : ∀ (v : Json) {t : Tag}, v.Every Number.Proper →
    Tag.ofJson v = some t → t.same t = true
  | .null, _, _, h => by cases h
  | .bool _, _, _, h => by
    cases h
    exact beq_self_eq_true _
  | .number _, _, proper, h => Tag.same_self_of_number proper h
  | .string _, _, _, h => by
    cases h
    exact beq_self_eq_true _
  | .array items, _, proper, h => by
    cases h
    exact Tag.sameItems_self items proper
  | .object members, _, proper, h => by
    cases h
    exact Compound.same_self members proper
termination_by structural v => v

theorem Tag.sameItems_self : ∀ items : List Json, Json.EveryItem Number.Proper items →
    Tag.sameItems (Tag.itemsOfJson items) (Tag.itemsOfJson items) = true
  | [], _ => rfl
  | v :: rest, proper => by
    rw [Tag.itemsOfJson]
    split
    · rename_i made
      exact Bool.and_eq_true_iff.2
        ⟨Tag.same_self_of_ofJson v proper.1 made, Tag.sameItems_self rest proper.2⟩
    · exact Tag.sameItems_self rest proper.2
termination_by structural items => items

theorem Compound.same_self : ∀ members : List (String × Json),
    Json.EveryMember Number.Proper members →
    Compound.same (Compound.ofMembers members) (Compound.ofMembers members) = true
  | [], _ => rfl
  | (key, v) :: rest, proper => by
    rw [Compound.ofMembers]
    split
    · rename_i made
      simp only [Compound.same, beq_self_eq_true, Bool.and_true,
        Tag.same_self_of_ofJson v proper.1 made, Compound.same_self rest proper.2]
    · exact Compound.same_self rest proper.2
termination_by structural members => members

end

theorem Compound.same_self_of_ofJson {v : Json} {c : Compound} (proper : v.Every Number.Proper)
    (h : Compound.ofJson v = some c) : Compound.same c c = true := by
  obtain ⟨members, object, rfl⟩ := Option.map_eq_some_iff.1 h
  cases v with
  | object members' =>
    cases object
    exact Compound.same_self members proper
  | _ => cases object

end EventRules
