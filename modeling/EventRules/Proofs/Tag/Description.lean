/-
Written conditions on compounds, against what is read from them. The entries of a list are told
apart by their places: an index for each list on the way down through `contains`. What is read has a
condition at every place of an entry, and it keeps what the entry gives, with one exception: of an
entry that gives both a value and a list, the value is dropped, and it is not even read.
-/
import EventRules.Tag.Matcher
import EventRules.Proofs.Problem
import Mathlib.Data.List.Forall2

namespace EventRules

theorem Json.eq_string_of_string? {v : Json} {s : String} (h : v.string? = some s) :
    v = .string s := by
  cases v with
  | string s' =>
    cases h
    rfl
  | _ => cases h

/-! ## Entries -/

namespace TagEntry

/-- A field of an entry that is given and not null, by its name in an object and by its place in an
array. -/
def field (name : String) (place : Nat) : Json → Option Json
  | .object members => given (Entries.find? name members)
  | .array fields => given fields[place]?
  | _ => none

def tagOf (v : Json) : Option String := (field "tag" 0 v).bind Json.string?

def valueOf (v : Json) : Option Json := field "value" 1 v

def containsOf (v : Json) : Option Json := field "contains" 2 v

/-- The entry at a place: its index, or the index of the entry to go down into, and so on. -/
def entryAt (items : List Json) (i : Nat) : List Nat → Option Json
  | [] => items[i]?
  | j :: path =>
    match (items[i]?).bind containsOf with
    | some (.array nested) => entryAt nested j path
    | _ => none

/-- The condition at a place. -/
def conditionAt (matchers : List TagMatcher) (i : Nat) : List Nat → Option TagMatcher
  | [] => matchers[i]?
  | j :: path =>
    match matchers[i]? with
    | some (.contains _ nested) => conditionAt nested j path
    | _ => none

/-- What a condition is read from: an entry with a list, whatever its value, or an entry with a
value that can be read, and no list. -/
inductive Reads (v : Json) : TagMatcher → Prop
  | contains {tag : String} {items : List Json} {nested : List TagMatcher}
    (tagged : tagOf v = some tag) (listed : containsOf v = some (.array items))
    (read : TagMatcher.listOfJson (.array items) = .ok nested) : Reads v (.contains tag nested)
  | value {tag : String} {x : Json} {expr : RangeExpr} (tagged : tagOf v = some tag)
    (alone : containsOf v = none) (valued : valueOf v = some x)
    (read : RangeExpr.ofJson x = .ok expr) : Reads v (.value tag expr)

/-! ## Reading entries -/

/-- What is read from a `contains` field, which may be missing or null. -/
inductive Nests : Option Json → Option (List TagEntry) → Prop
  | none : Nests none none
  | list {items : List Json} {entries : List TagEntry} (read : allOfJson items = some entries) :
    Nests (some (.array items)) (some entries)

theorem nests_of_nestedOfJson {v : Json} {nested : Option (List TagEntry)}
    (h : nestedOfJson v = some nested) : Nests (given (some v)) nested := by
  cases v with
  | null =>
    cases h
    exact .none
  | array items =>
    obtain ⟨entries, read, rfl⟩ := Option.map_eq_some_iff.1 h
    exact .list read
  | _ => cases h

theorem nests_of_ofMembers {members : List (String × Json)} {nested : Option (List TagEntry)}
    (h : ofMembers members = some nested) :
    Nests (given (Entries.find? "contains" members)) nested := by
  induction members with
  | nil =>
    cases h
    exact .none
  | cons head rest ih =>
    obtain ⟨name, v⟩ := head
    rw [ofMembers] at h
    rw [Entries.find?]
    split
    · rename_i named
      rw [if_pos named] at h
      exact nests_of_nestedOfJson h
    · rename_i other
      rw [if_neg other] at h
      exact ih h

/-- The fields of an entry that is decoded. -/
theorem fields_of_ofJson {v : Json} {tag : String} {value : Option Json}
    {nested : Option (List TagEntry)} (h : ofJson v = some (.mk tag value nested)) :
    tagOf v = some tag ∧ valueOf v = value ∧ Nests (containsOf v) nested := by
  unfold ofJson at h
  split at h
  · rename_i members
    obtain ⟨x, filed, h⟩ := Option.bind_eq_some_iff.1 h
    obtain ⟨name, named, h⟩ := Option.bind_eq_some_iff.1 h
    obtain ⟨inner, read, made⟩ := Option.bind_eq_some_iff.1 h
    obtain rfl := Json.eq_string_of_string? named
    cases made
    refine ⟨?_, rfl, nests_of_ofMembers read⟩
    rw [tagOf, field, filed]
    rfl
  · obtain ⟨name, named, made⟩ := Option.bind_eq_some_iff.1 h
    obtain rfl := Json.eq_string_of_string? named
    cases made
    exact ⟨rfl, rfl, .none⟩
  · obtain ⟨name, named, made⟩ := Option.bind_eq_some_iff.1 h
    obtain rfl := Json.eq_string_of_string? named
    cases made
    exact ⟨rfl, rfl, .none⟩
  · obtain ⟨name, named, h⟩ := Option.bind_eq_some_iff.1 h
    obtain ⟨inner, read, made⟩ := Option.bind_eq_some_iff.1 h
    obtain rfl := Json.eq_string_of_string? named
    cases made
    exact ⟨rfl, rfl, nests_of_nestedOfJson read⟩
  · cases h

theorem listOfJson_eq_ok_iff {items : List Json} {ms : List TagMatcher} :
    TagMatcher.listOfJson (.array items) = .ok ms ↔
      ∃ entries, allOfJson items = some entries ∧ matchers entries = .ok ms := by
  simp only [TagMatcher.listOfJson]
  rcases allOfJson items with _ | entries
  · simp
  · simp

/-- The condition of a decoded entry is read from its fields. -/
theorem reads_of_matcher {v : Json} {entry : TagEntry} {m : TagMatcher}
    (decoded : ofJson v = some entry) (h : entry.matcher = .ok m) : Reads v m := by
  obtain ⟨tag, value, nested⟩ := entry
  obtain ⟨tagged, valued, nests⟩ := fields_of_ofJson decoded
  generalize hc : containsOf v = c at nests
  cases nests with
  | none =>
    rcases value with _ | x
    · cases h
    · rw [matcher] at h
      obtain ⟨expr, read, made⟩ := exists_of_bind h
      cases made
      exact .value tagged hc valued read
  | @list items entries inner =>
    rw [matcher] at h
    obtain ⟨ms, read, made⟩ := exists_of_bind h
    cases made
    exact .contains tagged hc (listOfJson_eq_ok_iff.2 ⟨entries, inner, read⟩)

/-- What is read from a list of entries is read entry by entry. -/
theorem reads_of_listOfJson {items : List Json} {ms : List TagMatcher}
    (h : TagMatcher.listOfJson (.array items) = .ok ms) : List.Forall₂ Reads items ms := by
  obtain ⟨entries, decoded, read⟩ := listOfJson_eq_ok_iff.1 h
  clear h
  induction items generalizing entries ms with
  | nil =>
    cases decoded
    cases read
    exact .nil
  | cons v rest ih =>
    obtain ⟨entry, first, decoded⟩ := Option.bind_eq_some_iff.1 decoded
    obtain ⟨others, behind, made⟩ := Option.bind_eq_some_iff.1 decoded
    cases made
    rw [matchers] at read
    obtain ⟨m, head, read⟩ := exists_of_bind read
    obtain ⟨more, tail, made⟩ := exists_of_bind read
    cases made
    exact .cons (reads_of_matcher first head) (ih others behind tail)

/-! ## Places -/

variable {items : List Json} {ms : List TagMatcher} {i : Nat} {path : List Nat} {v : Json}

theorem exists_reads (h : TagMatcher.listOfJson (.array items) = .ok ms)
    (there : items[i]? = some v) : ∃ m, ms[i]? = some m ∧ Reads v m := by
  obtain ⟨inside, rfl⟩ := List.getElem?_eq_some_iff.1 there
  have read := reads_of_listOfJson h
  have inside' : i < ms.length := read.length_eq ▸ inside
  exact ⟨ms[i], List.getElem?_eq_getElem inside', read.get inside inside'⟩

/-- At the place of an entry, however deep, there is the condition that is read from it. -/
theorem exists_reads_at (h : TagMatcher.listOfJson (.array items) = .ok ms)
    (there : entryAt items i path = some v) :
    ∃ m, conditionAt ms i path = some m ∧ Reads v m := by
  induction path generalizing items ms i with
  | nil => exact exists_reads h there
  | cons j path ih =>
    rw [entryAt] at there
    split at there
    · rename_i inner hu
      obtain ⟨u, first, listed⟩ := Option.bind_eq_some_iff.1 hu
      obtain ⟨m, found, reads⟩ := exists_reads h first
      rw [conditionAt, found]
      -- only an entry with a list is gone into, and that is what its condition was read from
      cases reads with
      | contains tagged listed' read =>
        cases listed.symm.trans listed'
        exact ih read there
      | value tagged alone => cases listed.symm.trans alone
    · cases there

/-! ## What is kept -/

/-- A condition keeps what an entry gives: a value as the range of an integer under the tag, a list
as conditions on the compounds under the tag, one for each entry. -/
structure Keeps (v : Json) (m : TagMatcher) : Prop where
  value : ∀ x, valueOf v = some x → ∃ tag expr, tagOf v = some tag ∧ RangeExpr.ofJson x = .ok expr ∧
    m = .value tag expr
  contains : ∀ x, containsOf v = some x → ∃ tag items nested, tagOf v = some tag ∧
    x = .array items ∧ nested.length = items.length ∧ m = .contains tag nested

/-- An entry that gives both a value and a list. -/
def Twofold (v : Json) : Prop := (valueOf v).isSome = true ∧ (containsOf v).isSome = true

/-- A value that is no range. -/
def Malformed (v : Json) : Prop := ∃ x, valueOf v = some x ∧ ∀ expr, RangeExpr.ofJson x ≠ .ok expr

/-- The condition read from an entry keeps what it gives, unless it gives both. -/
theorem Reads.keeps_iff {m : TagMatcher} (h : Reads v m) : Keeps v m ↔ ¬ Twofold v := by
  constructor
  · rintro keeps ⟨valued, listed⟩
    obtain ⟨x, hx⟩ := Option.isSome_iff_exists.1 valued
    obtain ⟨y, hy⟩ := Option.isSome_iff_exists.1 listed
    obtain ⟨_, _, -, -, rfl⟩ := keeps.value x hx
    obtain ⟨_, _, _, -, -, -, same⟩ := keeps.contains y hy
    cases same
  · intro single
    cases h with
    | contains tagged listed read =>
      constructor
      · intro x valued
        exact absurd ⟨by rw [valued]; rfl, by rw [listed]; rfl⟩ single
      · intro x listed'
        cases listed.symm.trans listed'
        exact ⟨_, _, _, tagged, rfl, (reads_of_listOfJson read).length_eq.symm, rfl⟩
    | value tagged alone valued read =>
      constructor
      · intro x valued'
        cases valued.symm.trans valued'
        exact ⟨_, _, tagged, read, rfl⟩
      · intro x listed
        cases alone.symm.trans listed

/-- No entry of a list, however deep, loses anything: a list that is read has at the place of each
entry a condition that keeps it, and a list is refused if the value of some entry is no range. -/
structure Lossless (items : List Json) : Prop where
  kept : ∀ ms, TagMatcher.listOfJson (.array items) = .ok ms → ∀ i path v,
    entryAt items i path = some v → ∃ m, conditionAt ms i path = some m ∧ Keeps v m
  refused : ∀ i path v, entryAt items i path = some v → Malformed v →
    ∃ p, TagMatcher.listOfJson (.array items) = .error p

end TagEntry

namespace TagMatcher

open TagEntry

/-- Nothing that a list of entries says is lost exactly if the list is refused or no entry, however
deep, gives both a value and a list. -/
theorem lossless_iff_not_twofold (items : List Json) :
    Lossless items ↔ ∀ ms, listOfJson (.array items) = .ok ms → ∀ i path v,
      entryAt items i path = some v → ¬ Twofold v := by
  constructor
  · intro lossless ms read i path v there
    obtain ⟨m, found, reads⟩ := exists_reads_at read there
    obtain ⟨m', found', keeps⟩ := lossless.kept ms read i path v there
    cases found.symm.trans found'
    exact reads.keeps_iff.1 keeps
  · intro single
    have kept : ∀ ms, listOfJson (.array items) = .ok ms → ∀ i path v,
        entryAt items i path = some v → ∃ m, conditionAt ms i path = some m ∧ Keeps v m := by
      intro ms read i path v there
      obtain ⟨m, found, reads⟩ := exists_reads_at read there
      exact ⟨m, found, reads.keeps_iff.2 (single ms read i path v there)⟩
    refine ⟨kept, ?_⟩
    rintro i path v there ⟨x, valued, malformed⟩
    rcases read : listOfJson (.array items) with p | ms
    · exact ⟨p, rfl⟩
    · obtain ⟨m, -, keeps⟩ := kept ms read i path v there
      obtain ⟨_, expr, -, well, -⟩ := keeps.value x valued
      exact absurd well (malformed expr)

/-- An entry whose value is no range, beside an empty list, is read without complaint. -/
theorem value_passed_over :
    let v : Json :=
      .object [("contains", .array []), ("tag", .string "X"), ("value", .string "big")]
    listOfJson (.array [v]) = .ok [.contains "X" []] ∧ Malformed v ∧ ¬ Lossless [v] := by
  intro v
  have read : listOfJson (.array [v]) = .ok [.contains "X" []] := rfl
  have refused : RangeExpr.ofJson (.string "big") = .error (.badExpression "big") := rfl
  have malformed : Malformed v := ⟨.string "big", rfl, fun expr well => by
    rw [refused] at well
    cases well⟩
  refine ⟨read, malformed, fun lossless => ?_⟩
  obtain ⟨p, error⟩ := lossless.refused 0 [] v rfl malformed
  cases read.symm.trans error

end TagMatcher

end EventRules
