/-
Dictionaries keyed by strings and kept in increasing key order (the order of the keys' UTF-8 bytes,
which is the order of their code points). The order is part of the type `Dict`: listing one needs no
sorting, and a key stands in it at most once. The operations on plain association lists come first,
for the recursive types that hold such a list inside themselves.
-/
namespace EventRules

/-! ## Association lists in key order -/

namespace Entries

variable {α : Type}

/-- The value filed under `key`. -/
def find? (key : String) : List (String × α) → Option α
  | [] => none
  | (k, v) :: rest => if k = key then some v else find? key rest

/-- Files `value` under `key`: in place of the old value if there is one, else where the order
wants it. -/
def insert (key : String) (value : α) : List (String × α) → List (String × α)
  | [] => [(key, value)]
  | (k, v) :: rest =>
    if k = key then (key, value) :: rest
    else if key < k then (key, value) :: (k, v) :: rest
    else (k, v) :: insert key value rest

/-- Drops the value filed under `key`. -/
def erase (key : String) (entries : List (String × α)) : List (String × α) :=
  entries.filter fun e => e.1 != key

/-- The entries of a list of pairs in key order; of several values for a key the last counts. -/
def ofPairs (pairs : List (String × α)) : List (String × α) :=
  pairs.foldl (fun es p => insert p.1 p.2 es) []

/-- Keys increase strictly from entry to entry. -/
def Ordered (entries : List (String × α)) : Prop :=
  entries.Pairwise fun a b => a.1 < b.1

theorem lt_of_not_lt_of_ne {a b : String} (h : ¬ a < b) (ne : a ≠ b) : b < a :=
  Std.lt_of_le_of_ne (String.not_lt.mp h) (Ne.symm ne)

theorem mem_insert {key : String} {value : α} {entries : List (String × α)} {e : String × α}
    (h : e ∈ insert key value entries) : e = (key, value) ∨ e ∈ entries := by
  induction entries with
  | nil => simpa [insert] using h
  | cons head rest ih =>
    obtain ⟨k, v⟩ := head
    simp only [insert] at h
    split at h
    · rcases List.mem_cons.mp h with h | h
      · exact .inl h
      · exact .inr (List.mem_cons_of_mem _ h)
    · split at h
      · rcases List.mem_cons.mp h with h | h
        · exact .inl h
        · exact .inr h
      · rcases List.mem_cons.mp h with h | h
        · exact .inr (h ▸ List.mem_cons_self)
        · rcases ih h with h | h
          · exact .inl h
          · exact .inr (List.mem_cons_of_mem _ h)

/-- Filing a value keeps the order. -/
theorem Ordered.insert {entries : List (String × α)} (ordered : Ordered entries) (key : String)
    (value : α) : Ordered (insert key value entries) := by
  induction entries with
  | nil => exact List.pairwise_singleton _ _
  | cons head rest ih =>
    obtain ⟨k, v⟩ := head
    obtain ⟨above, tail⟩ := List.pairwise_cons.mp ordered
    simp only [Entries.insert]
    split
    · rename_i eq
      exact List.pairwise_cons.mpr ⟨fun e he => eq ▸ above e he, tail⟩
    · rename_i ne
      split
      · rename_i lt
        refine List.pairwise_cons.mpr ⟨fun e he => ?_, ordered⟩
        rcases List.mem_cons.mp he with rfl | he
        · exact lt
        · exact String.lt_trans lt (above e he)
      · rename_i ge
        refine List.pairwise_cons.mpr ⟨fun e he => ?_, ih tail⟩
        rcases mem_insert he with rfl | he
        · exact lt_of_not_lt_of_ne ge (Ne.symm ne)
        · exact above e he

/-- Dropping a key keeps the order. -/
theorem Ordered.erase {entries : List (String × α)} (ordered : Ordered entries) (key : String) :
    Ordered (erase key entries) :=
  List.Pairwise.filter _ ordered

theorem Ordered.foldl_insert {entries : List (String × α)} (ordered : Ordered entries)
    (pairs : List (String × α)) :
    Ordered (pairs.foldl (fun es p => Entries.insert p.1 p.2 es) entries) := by
  induction pairs generalizing entries with
  | nil => exact ordered
  | cons p rest ih => exact ih (ordered.insert p.1 p.2)

/-- Every list of pairs yields entries in key order. -/
theorem ordered_ofPairs (pairs : List (String × α)) : Ordered (ofPairs pairs) :=
  Ordered.foldl_insert List.Pairwise.nil pairs

end Entries

/-! ## Dictionaries -/

/-- A dictionary from strings to `α`, listed by increasing key. -/
structure Dict (α : Type) where
  entries : List (String × α)
  ordered : Entries.Ordered entries

namespace Dict

variable {α : Type}

def empty : Dict α := ⟨[], List.Pairwise.nil⟩

/-- The value filed under `key`. -/
def get? (d : Dict α) (key : String) : Option α := Entries.find? key d.entries

/-- Files `value` under `key`, in place of what was there. -/
def insert (d : Dict α) (key : String) (value : α) : Dict α :=
  ⟨Entries.insert key value d.entries, d.ordered.insert key value⟩

/-- Drops `key`. -/
def erase (d : Dict α) (key : String) : Dict α :=
  ⟨Entries.erase key d.entries, d.ordered.erase key⟩

def contains (d : Dict α) (key : String) : Bool := (d.get? key).isSome

/-- The keys, in increasing order. -/
def keys (d : Dict α) : List String := d.entries.map (·.1)

def size (d : Dict α) : Nat := d.entries.length

def isEmpty (d : Dict α) : Bool := d.entries.isEmpty

/-- The dictionary of a list of pairs; of several values for a key the last counts. -/
def ofPairs (pairs : List (String × α)) : Dict α :=
  ⟨Entries.ofPairs pairs, Entries.ordered_ofPairs pairs⟩

instance [DecidableEq α] : DecidableEq (Dict α) := fun a b =>
  decidable_of_iff (a.entries = b.entries) (by cases a; cases b; simp)

end Dict

/-! ## Sets of names -/

/-- A set of names, listed in increasing order. -/
abbrev NameSet := Dict Unit

/-- The set of the listed names. -/
def NameSet.ofList (names : List String) : NameSet :=
  Dict.ofPairs (names.map fun name => (name, ()))

end EventRules
