/-
Records in printed text. The printed form of a value is read as a record just as the value itself
is: the same fields are given, and each is read from its text as what is made of its value. Members
with other names are passed over, and no name comes twice, since a value's members are in order.
-/
import EventRules.Json.Record
import EventRules.Proofs.Json.Print
import Mathlib.Data.List.Forall2

namespace EventRules

theorem exists_of_mapM_eq_none {α β : Type} {f : α → Option β} {as : List α}
    (h : as.mapM f = none) : ∃ a ∈ as, f a = none := by
  induction as with
  | nil => cases h
  | cons a rest ih =>
    cases made : f a with
    | none => exact ⟨a, List.mem_cons_self, made⟩
    | some b =>
      have tail : rest.mapM f = none := by
        cases others : rest.mapM f with
        | none => rfl
        | some bs => simp [made, others] at h
      obtain ⟨a', ha', none⟩ := ih tail
      exact ⟨a', List.mem_cons_of_mem _ ha', none⟩

theorem map_fst_zip_sublist {α β : Type} (as : List α) (bs : List β) :
    ((as.zip bs).map (·.1)).Sublist as := by
  induction as generalizing bs with
  | nil => exact List.nil_sublist _
  | cons a as ih =>
    cases bs with
    | nil => exact List.nil_sublist _
    | cons b bs => exact (ih bs).cons_cons a

namespace Json

variable {α : Type}

/-! ## Fields -/

/-- What is made of the values of a record's fields, by name. -/
abbrev Fields (α : Type) := List (String × (Json → Option α))

namespace Fields

variable (fields : Fields α)

def names : List String := fields.map (·.1)

/-- What is made of one member. -/
def make (m : String × Json) : Option (String × α) :=
  (Entries.find? m.1 fields).bind fun make => (make m.2).map fun a => (m.1, a)

/-- The fields that a value gives, with their names. -/
def given : Json → Option (List (String × Json))
  | .object members => some (members.filter fun m => (Entries.find? m.1 fields).isSome)
  | .array items => if fields.length < items.length then none else some (fields.names.zip items)
  | _ => none

/-- What is made of the fields that a value gives. -/
def makeAll (v : Json) : Option (List (String × α)) :=
  (fields.given v).bind fun members => members.mapM fields.make

variable {fields} {members : List (String × Json)} {made : List (String × α)}

theorem map_fst_of_mapM_make (h : members.mapM fields.make = some made) :
    made.map (·.1) = members.map (·.1) := by
  induction members generalizing made with
  | nil =>
    cases h
    rfl
  | cons m rest ih =>
    rw [List.mapM_cons] at h
    obtain ⟨a, first, h⟩ := Option.bind_eq_some_iff.1 h
    obtain ⟨others, tail, h⟩ := Option.bind_eq_some_iff.1 h
    obtain ⟨f, -, named⟩ := Option.bind_eq_some_iff.1 first
    obtain ⟨b, -, rfl⟩ := Option.map_eq_some_iff.1 named
    cases h
    rw [List.map_cons, List.map_cons, ih tail]

/-- Where something is made of all members, it is made of each. -/
theorem find?_of_mapM_make {name : String} {f : Json → Option α}
    (h : members.mapM fields.make = some made) (known : Entries.find? name fields = some f) :
    (Entries.find? name members = none ∧ Entries.find? name made = none) ∨
      ∃ v a, Entries.find? name members = some v ∧ f v = some a ∧
        Entries.find? name made = some a := by
  induction members generalizing made with
  | nil =>
    cases h
    exact .inl ⟨rfl, rfl⟩
  | cons m rest ih =>
    rw [List.mapM_cons] at h
    obtain ⟨a, first, h⟩ := Option.bind_eq_some_iff.1 h
    obtain ⟨others, tail, h⟩ := Option.bind_eq_some_iff.1 h
    obtain ⟨g, found, named⟩ := Option.bind_eq_some_iff.1 first
    obtain ⟨b, value, rfl⟩ := Option.map_eq_some_iff.1 named
    cases h
    rw [Entries.find?_cons, Entries.find?_cons]
    by_cases same : m.1 = name
    · rw [same, known] at found
      cases found
      rw [if_pos same, if_pos same]
      exact .inr ⟨_, _, rfl, value, rfl⟩
    · rw [if_neg same, if_neg same]
      exact ih tail

/-- Where something cannot be made of all members, it cannot be made of one. -/
theorem exists_refused (nodup : (members.map (·.1)).Nodup)
    (known : ∀ m ∈ members, (Entries.find? m.1 fields).isSome)
    (h : members.mapM fields.make = none) :
    ∃ name f v, Entries.find? name fields = some f ∧ Entries.find? name members = some v ∧
      f v = none := by
  obtain ⟨m, hm, refused⟩ := exists_of_mapM_eq_none h
  obtain ⟨f, found⟩ := Option.isSome_iff_exists.1 (known m hm)
  rw [make, found, Option.bind_some, Option.map_eq_none_iff] at refused
  exact ⟨m.1, f, m.2, found, Entries.find?_of_mem nodup hm, refused⟩

/-! ## Fields of a value -/

/-- The fields that a value gives have different names, which are names of the record. -/
theorem given_spec (nodup : fields.names.Nodup) {v : Json} (h : v.Printable)
    (given : fields.given v = some members) :
    (members.map (·.1)).Nodup ∧ ∀ m ∈ members, (Entries.find? m.1 fields).isSome := by
  cases v with
  | object all =>
    cases given
    have distinct : (all.map (·.1)).Nodup :=
      nodup_of_increasing (Entries.increasing_map_fst h.ordered.1)
    exact ⟨distinct.sublist (List.filter_sublist.map _), fun m hm => (List.mem_filter.1 hm).2⟩
  | array items =>
    rw [Fields.given] at given
    split at given
    · cases given
    · rename_i short
      cases given
      refine ⟨nodup.sublist (map_fst_zip_sublist _ _), fun m hm => ?_⟩
      obtain ⟨f, hf, named⟩ := List.mem_map.1 (List.of_mem_zip hm).1
      rw [← named, Entries.find?_of_mem nodup hf]
      rfl
  | _ => cases given

theorem find?_zip {names : List String} (nodup : names.Nodup) (items : List Json) :
    names.map (fun name => Entries.find? name (names.zip items)) =
      (List.range names.length).map fun i : ℕ => items[i]? := by
  induction names generalizing items with
  | nil => rfl
  | cons name rest ih =>
    obtain ⟨new, nodup⟩ := List.nodup_cons.1 nodup
    cases items with
    | nil => simp [Entries.find?, List.replicate_succ]
    | cons v items =>
      have others : rest.map (fun n => Entries.find? n ((name, v) :: rest.zip items)) =
          rest.map fun n => Entries.find? n (rest.zip items) :=
        List.map_congr_left fun n hn => by
          have other : name ≠ n := fun same => new (same ▸ hn)
          rw [Entries.find?_cons, if_neg other]
      rw [List.zip_cons_cons, List.map_cons, others, ih nodup, List.length_cons,
        List.range_succ_eq_map, List.map_cons, List.map_map, Entries.find?_cons, if_pos rfl]
      rfl

/-- A value is read as a record by the fields that it gives. -/
theorem record?_eq (fields : Fields α) (nodup : fields.names.Nodup) (v : Json) :
    v.record? fields.names = (fields.given v).map fun members =>
      fields.names.map fun name => Entries.find? name members := by
  cases v with
  | object members =>
    refine congrArg some (List.map_congr_left fun name hn => ?_)
    obtain ⟨f, hf, named⟩ := List.mem_map.1 hn
    rw [Entries.find?_filter fun name => (Entries.find? name fields).isSome, ← named,
      Entries.find?_of_mem nodup hf]
    rfl
  | array items =>
    have length : fields.names.length = fields.length := List.length_map _
    rw [record?, Fields.given, ← find?_zip nodup, length]
    split <;> rfl
  | _ => rfl

end Fields

/-! ## Records in text -/

section Text

variable {readers : List (String × Read α)} {fields : Fields α}

/-- Readers that read a printed value as what is made of it. -/
def ReadsFields (readers : List (String × Read α)) (fields : Fields α) : Prop :=
  List.Forall₂ (fun r f => r.1 = f.1 ∧ ∀ v : Json, v.Printable → Reads r.2 chars f.2 v)
    readers fields

theorem ReadsFields.find? (h : ReadsFields readers fields) (name : String) :
    (Entries.find? name readers = none ∧ Entries.find? name fields = none) ∨
      ∃ read f, Entries.find? name readers = some read ∧ Entries.find? name fields = some f ∧
        ∀ v : Json, v.Printable → Reads read chars f v := by
  induction h with
  | nil => exact .inl ⟨rfl, rfl⟩
  | @cons r f _ _ first _ ih =>
    obtain ⟨named, reads⟩ := first
    rw [Entries.find?_cons, Entries.find?_cons, named]
    by_cases same : f.1 = name
    · rw [if_pos same, if_pos same]
      exact .inr ⟨_, _, rfl, rfl, reads⟩
    · rw [if_neg same, if_neg same]
      exact ih

/-- The value of a member, which is passed over if the record has no such field. -/
def namedValue (readers : List (String × Read α)) (name : String) : Read (Option α) := fun cs =>
  match Entries.find? name readers with
  | some read => (read cs).map fun (v, r) => (some v, r)
  | none => (skip cs).map fun (_, r) => (none, r)

def namedMake (fields : Fields α) (name : String) (v : Json) : Option (Option α) :=
  match Entries.find? name fields with
  | some f => (f v).map some
  | none => some none

theorem reads_namedValue (h : ReadsFields readers fields) (name : String) {v : Json}
    (printable : v.Printable) :
    Reads (namedValue readers name) chars (namedMake fields name) v := by
  intro rest delimited
  unfold namedValue namedMake
  rcases h.find? name with ⟨no_reader, no_field⟩ | ⟨read, f, reader, field, reads⟩
  · rw [no_reader, no_field]
    dsimp only
    rw [reads_skip printable rest delimited]
    rfl
  · rw [reader, field]
    dsimp only
    rw [reads v printable rest delimited, Option.map_map, Option.map_map]
    rfl

theorem namedFields_eq (readers : List (String × Read α)) (cs : List Char) :
    namedFields readers cs =
      (enclosed (member quotedString (namedValue readers)) '\x7d' cs).bind fun r =>
        let fields := r.1.filterMap fun (name, v) => v.map fun v => (name, v)
        if (fields.map (·.1)).Nodup then some (fields, r.2) else none := rfl

/-- Of the members those that are fields are kept. -/
theorem mapM_namedMake (fields : Fields α) (members : List (String × Json)) :
    (members.mapM fun m => (namedMake fields m.1 m.2).map fun b => (m.1, b)).map
        (fun made => made.filterMap fun (name, v) => v.map fun v => (name, v)) =
      (members.filter fun m => (Entries.find? m.1 fields).isSome).mapM fields.make := by
  induction members with
  | nil => rfl
  | cons m rest ih =>
    rw [List.mapM_cons, List.filter_cons, namedMake]
    cases found : Entries.find? m.1 fields with
    | none =>
      rw [if_neg (by simp), ← ih]
      simp only [Option.map_some, bind, Option.bind_some, pure]
      cases rest.mapM fun m => (namedMake fields m.1 m.2).map fun b => (m.1, b) <;> rfl
    | some f =>
      rw [if_pos (by simp), List.mapM_cons, ← ih, Fields.make, found]
      simp only [bind, Option.bind_some, pure]
      cases f m.2 with
      | none => rfl
      | some a => cases rest.mapM fun m => (namedMake fields m.1 m.2).map fun b => (m.1, b) <;> rfl

theorem reads_namedFields (h : ReadsFields readers fields) (nodup : fields.names.Nodup)
    {members : List (String × Json)} (printable : (object members).Printable) (rest : List Char) :
    namedFields readers ((object members).chars.tail ++ rest) =
      (fields.makeAll (object members)).map fun made => (made, rest) := by
  have each (m : String × Json) (hm : m ∈ members) :
      Reads (member quotedString (namedValue readers)) (memberChars chars)
        (fun m => (namedMake fields m.1 m.2).map fun b => (m.1, b)) m :=
    reads_member quotedString_stringChars (reads_namedValue h m.1 (printable.member m hm))
  have kept := mapM_namedMake fields members
  rw [namedFields_eq, enclosed_members each, Fields.makeAll, Fields.given, Option.bind_some, ← kept]
  cases all : members.mapM fun m => (namedMake fields m.1 m.2).map fun b => (m.1, b) with
  | none => rfl
  | some made =>
    rw [all, Option.map_some] at kept
    have distinct := (Fields.given_spec nodup printable rfl).1
    rw [← Fields.map_fst_of_mapM_make kept.symm] at distinct
    exact if_pos distinct

/-- What is made of values in the order of the fields. -/
def orderedMake : Fields α → List Json → Option (List (String × α))
  | _, [] => some []
  | [], _ :: _ => none
  | (name, f) :: fields, v :: rest => do
    let a ← f v
    let more ← orderedMake fields rest
    return (name, a) :: more

theorem orderedMake_nil (fields : Fields α) : orderedMake fields [] = some [] := by
  cases fields <;> rfl

theorem orderedItems_joined (h : ReadsFields readers fields) {v : Json} {items : List Json}
    (printable : ∀ w ∈ v :: items, w.Printable) (rest : List Char) :
    orderedItems readers (v.chars ++ (joined chars ']' items ++ rest)) =
      (orderedMake fields (v :: items)).map fun made => (made, rest) := by
  induction h generalizing v items with
  | nil => rfl
  | @cons r f _ _ first _ ih =>
    obtain ⟨named, reads⟩ := first
    obtain ⟨hv, others⟩ := List.forall_mem_cons.1 printable
    rw [orderedItems, reads v hv _ (delimited_joined (by decide) items rest), named, orderedMake]
    cases f.2 v with
    | none => rfl
    | some a =>
      cases items with
      | nil =>
        rw [orderedMake_nil]
        rfl
      | cons w items =>
        simp only [joined, List.cons_append, List.append_assoc, Option.map_some, bind,
          Option.bind_some, skipBlanks_cons (show isBlank ',' = false from rfl), ih others]
        cases orderedMake _ (w :: items) <;> rfl

/-- Values in the order of the fields are those that are given under their names. -/
theorem orderedMake_eq {some_fields : Fields α}
    (known : ∀ f ∈ some_fields, Entries.find? f.1 fields = some f.2) (items : List Json) :
    orderedMake some_fields items =
      if some_fields.length < items.length then none
      else (some_fields.names.zip items).mapM fields.make := by
  induction some_fields generalizing items with
  | nil => cases items <;> rfl
  | cons f rest ih =>
    obtain ⟨first, others⟩ := List.forall_mem_cons.1 known
    cases items with
    | nil => rfl
    | cons v items =>
      have names : Fields.names (f :: rest) = f.1 :: Fields.names rest := rfl
      rw [orderedMake, ih others, names, List.zip_cons_cons, List.mapM_cons, Fields.make, first,
        List.length_cons, List.length_cons]
      simp only [bind, Option.bind_some, pure, Nat.add_lt_add_iff_right]
      cases f.2 v with
      | none => split <;> rfl
      | some a => split <;> rfl

theorem recordText_array {c : Char} (solid : isBlank c = false) (unclosed : c ≠ ']')
    (readers : List (String × Read α)) (cs : List Char) :
    recordText readers ('[' :: c :: cs) = orderedItems readers (c :: cs) := by
  unfold recordText
  rw [skipBlanks_cons rfl]
  split
  · rename_i brace
    exact absurd (List.cons.inj brace).1 (by decide)
  · rename_i bracket
    cases bracket
    rw [skipBlanks_cons solid]
    split
    · rename_i closed
      exact absurd (List.cons.inj closed).1 unclosed
    · rfl
  · rename_i no_array
    exact absurd rfl (no_array _)

theorem recordText_flat {c : Char} (solid : isBlank c = false) (no_array : c ≠ '[')
    (no_object : c ≠ '\x7b') (readers : List (String × Read α)) (cs : List Char) :
    recordText readers (c :: cs) = none := by
  unfold recordText
  rw [skipBlanks_cons solid]
  split
  · rename_i same
    exact absurd (List.cons.inj same).1 no_object
  · rename_i same
    exact absurd (List.cons.inj same).1 no_array
  · rfl

/-- A printed value is read as the record that is made of it. -/
theorem reads_recordText (h : ReadsFields readers fields) (nodup : fields.names.Nodup) {v : Json}
    (printable : v.Printable) : Reads (recordText readers) chars fields.makeAll v := by
  intro rest delimited
  cases v with
  | object members =>
    rw [chars_object, List.cons_append]
    exact reads_namedFields h nodup printable rest
  | array items =>
    have ordered : fields.makeAll (array items) = orderedMake fields items := by
      rw [orderedMake_eq fun f hf => Entries.find?_of_mem nodup hf, Fields.makeAll, Fields.given]
      split <;> rfl
    rw [ordered]
    cases items with
    | nil =>
      rw [orderedMake_nil]
      rfl
    | cons w items =>
      obtain ⟨c, cs, begins, opens⟩ := exists_opens (printable.item w List.mem_cons_self)
      rw [← orderedItems_joined h printable.item rest, chars, itemsChars_eq, List.cons_append,
        List.append_assoc, begins, List.cons_append]
      exact recordText_array opens.solid (opens.unclosed (by decide)) readers _
  | _ =>
    obtain ⟨c, cs, begins, opens⟩ := exists_opens printable
    obtain ⟨no_array, no_object⟩ := opens.flat rfl
    rw [begins, List.cons_append, recordText_flat opens.solid no_array no_object]
    rfl

/-! ## Fields in text -/

/-- A value as a 32-bit integer, if it is written as one. -/
def int32? : Json → Option Int32
  | .number n => n.int32?
  | _ => none

theorem Opens.not_numeric {v : Json} {c : Char} (h : v.Opens c) (other : ∀ n, v ≠ number n) :
    ¬ (c = '-' ∨ c.isDigit = true) := by
  cases v with
  | number n => exact absurd rfl (other n)
  | bool b => cases b <;> cases h <;> decide
  | _ => cases h; decide

theorem reads_int32Text {v : Json} (h : v.Printable) : Reads int32Text chars int32? v := by
  intro rest delimited
  obtain ⟨c, cs, begins, opens⟩ := exists_opens h
  have solid : skipBlanks (v.chars ++ rest) = v.chars ++ rest := by
    rw [begins, List.cons_append, skipBlanks_cons opens.solid]
  rw [int32Text, solid]
  by_cases other : ∀ n, v ≠ number n
  · have no_literal : literal (v.chars ++ rest) = none := by
      rw [begins, List.cons_append, Option.eq_none_iff_forall_ne_some]
      exact fun r read => opens.not_numeric other (head_of_literal read)
    have no_int : v.int32? = none := by
      cases v with
      | number n => exact absurd rfl (other n)
      | _ => rfl
    rw [no_literal, no_int]
    rfl
  · rw [not_forall] at other
    obtain ⟨n, same⟩ := other
    obtain rfl := not_not.1 same
    obtain ⟨l, number, read⟩ := Number.Readable.reads_literal h.numbers
    have read_here : literal ((Json.number n).chars ++ rest) = some (l, rest) :=
      read rest delimited
    rw [read_here]
    simp only [bind, Option.bind_some, number, pure, int32?]
    cases n.int32? <;> rfl

theorem boolText_of_plain {c : Char} (solid : isBlank c = false) (no_true : c ≠ 't')
    (no_false : c ≠ 'f') (cs : List Char) : boolText (c :: cs) = none := by
  unfold boolText
  rw [skipBlanks_cons solid]
  split
  · rename_i same
    exact absurd (List.cons.inj same).1 no_true
  · rename_i same
    exact absurd (List.cons.inj same).1 no_false
  · rfl

theorem Opens.not_truth {v : Json} {c : Char} (h : v.Opens c) (other : ∀ b, v ≠ bool b) :
    c ≠ 't' ∧ c ≠ 'f' := by
  cases v with
  | number n => exact ⟨ne_of_numeric h (by decide) rfl, ne_of_numeric h (by decide) rfl⟩
  | bool b => exact absurd rfl (other b)
  | _ => cases h; decide

theorem reads_boolText {v : Json} (h : v.Printable) : Reads boolText chars bool? v := by
  intro rest _
  cases v with
  | bool b => cases b <;> rfl
  | _ =>
    obtain ⟨c, cs, begins, opens⟩ := exists_opens h
    obtain ⟨no_true, no_false⟩ := opens.not_truth nofun
    rw [begins, List.cons_append, boolText_of_plain opens.solid no_true no_false]
    rfl

end Text

end Json

end EventRules
