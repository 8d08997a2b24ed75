/-
Tags whose compounds list their names in increasing order, each name once. Filing an ordered tag
keeps the order, and every compound made of a JSON object with ordered members has it.
-/
import EventRules.Tag.Basic
import EventRules.Proofs.Dict

namespace EventRules

/-! ## Order of names -/

/-- Every compound in the tag lists its names in increasing order, each name once. -/
inductive Tag.Ordered : Tag → Prop
  | byte (v : Int8) : Ordered (.byte v)
  | short (v : Int16) : Ordered (.short v)
  | int (v : Int32) : Ordered (.int v)
  | long (v : Int64) : Ordered (.long v)
  | float (v : Single) : Ordered (.float v)
  | double (v : Double) : Ordered (.double v)
  | string (s : String) : Ordered (.string s)
  | list {items : List Tag} (items_ordered : ∀ t ∈ items, Ordered t) : Ordered (.list items)
  | compound {entries : List (String × Tag)} (names : Entries.Ordered entries)
    (tags : ∀ p ∈ entries, Ordered p.2) : Ordered (.compound entries)

variable {c : Compound} {key : String} {t : Tag}

namespace Compound

/-- A compound that lists its names in increasing order, as do all compounds in it. -/
def Ordered (c : Compound) : Prop := (Tag.compound c).Ordered

theorem Ordered.names (h : c.Ordered) : Entries.Ordered c := by
  cases h with
  | compound names tags => exact names

theorem Ordered.tag_of_mem (h : c.Ordered) {p : String × Tag} (there : p ∈ c) : p.2.Ordered := by
  cases h with
  | compound names tags => exact tags p there

theorem Ordered.tag (h : c.Ordered) (there : Entries.find? key c = some t) : t.Ordered :=
  h.tag_of_mem (Entries.mem_of_find? there)

theorem ordered_nil : Ordered [] := .compound .nil (List.forall_mem_nil _)

theorem Ordered.insert (h : c.Ordered) (key : String) (ht : t.Ordered) :
    Ordered (Entries.insert key t c) := by
  refine .compound (h.names.insert key t) fun p there => ?_
  rcases Entries.mem_insert there with rfl | there
  · exact ht
  · exact h.tag_of_mem there

/-! ## Compounds of JSON objects -/

/-- Of the names of an object some are left out. -/
theorem sublist_names_ofMembers : ∀ members : List (String × Json),
    ((ofMembers members).map Prod.fst).Sublist (members.map Prod.fst)
  | [] => .slnil
  | (key, v) :: rest => by
    rw [ofMembers]
    split
    · exact (sublist_names_ofMembers rest).cons_cons _
    · exact (sublist_names_ofMembers rest).cons _

theorem names_ofMembers {members : List (String × Json)} (ordered : Entries.Ordered members) :
    Entries.Ordered (ofMembers members) :=
  List.pairwise_map.1
    ((Entries.increasing_map_fst ordered).sublist (sublist_names_ofMembers members))

end Compound

mutual

/-- The tag of a value has its names in order as the value has. -/
theorem Tag.ordered_of_ofJson : ∀ (v : Json) {t : Tag}, v.Ordered → Tag.ofJson v = some t →
    t.Ordered
  | .null, _, _, h => by cases h
  | .bool _, _, _, h => by
    cases h
    exact .byte _
  | .number n, _, _, h => by
    rw [Tag.ofJson] at h
    split at h
    · split at h <;> cases h
      · exact .int _
      · exact .long _
    · cases h
      exact .double _
  | .string _, _, _, h => by
    cases h
    exact .string _
  | .array items, _, ordered, h => by
    cases h
    exact .list (Tag.ordered_of_mem_items items ordered)
  | .object members, _, ordered, h => by
    cases h
    exact .compound (Compound.names_ofMembers ordered.1)
      (Compound.ordered_of_mem_members members ordered.2)
termination_by structural v => v

theorem Tag.ordered_of_mem_items : ∀ items : List Json, Json.AllOrdered items →
    ∀ t ∈ Tag.itemsOfJson items, t.Ordered
  | [], _ => List.forall_mem_nil _
  | v :: rest, ordered => by
    rw [Tag.itemsOfJson]
    split
    · rename_i made
      exact List.forall_mem_cons.2
        ⟨Tag.ordered_of_ofJson v ordered.1 made, Tag.ordered_of_mem_items rest ordered.2⟩
    · exact Tag.ordered_of_mem_items rest ordered.2
termination_by structural items => items

theorem Compound.ordered_of_mem_members : ∀ members : List (String × Json),
    Json.MembersOrdered members → ∀ p ∈ Compound.ofMembers members, p.2.Ordered
  | [], _ => List.forall_mem_nil _
  | (key, v) :: rest, ordered => by
    rw [Compound.ofMembers]
    split
    · rename_i made
      exact List.forall_mem_cons.2
        ⟨Tag.ordered_of_ofJson v ordered.1 made, Compound.ordered_of_mem_members rest ordered.2⟩
    · exact Compound.ordered_of_mem_members rest ordered.2
termination_by structural members => members

end

namespace Compound

theorem ordered_of_ofJson {v : Json} (ordered : v.Ordered) (h : Compound.ofJson v = some c) :
    c.Ordered := by
  obtain ⟨members, object, rfl⟩ := Option.map_eq_some_iff.1 h
  cases v with
  | object members' =>
    cases object
    exact Tag.ordered_of_ofJson (.object members) ordered rfl
  | _ => cases object

end Compound

end EventRules
