/-
Laws of dictionaries: looking up after filing and dropping, dictionaries with the same answers are
equal, the keys as a strictly increasing list, and two ways to make a dictionary from others: the
union of two, and the part of one whose keys satisfy a condition.
-/
import EventRules.Dict

namespace EventRules

/-! ## Lists of names in strictly increasing order -/

theorem nodup_of_increasing {names : List String} (h : names.Pairwise (· < ·)) : names.Nodup :=
  h.imp fun {a b} hab he => by
    subst he
    exact String.lt_irrefl a hab

/-- A strictly increasing list of names is determined by its members. -/
theorem eq_of_increasing {a b : List String} (ha : a.Pairwise (· < ·)) (hb : b.Pairwise (· < ·))
    (h : ∀ name, name ∈ a ↔ name ∈ b) : a = b := by
  have perm : a.Perm b :=
    (List.perm_ext_iff_of_nodup (nodup_of_increasing ha) (nodup_of_increasing hb)).2 h
  refine List.Perm.eq_of_pairwise (fun x y _ _ hxy hyx => ?_) ha hb perm
  exact absurd (String.lt_trans hxy hyx) (String.lt_irrefl x)

/-! ## Looking up in association lists -/

namespace Entries

variable {α : Type} {entries : List (String × α)} {name : String} {value : α}

theorem find?_cons (head : String × α) (rest : List (String × α)) :
    find? name (head :: rest) = if head.1 = name then some head.2 else find? name rest := rfl

theorem find?_append (a b : List (String × α)) :
    find? name (a ++ b) = (find? name a).or (find? name b) := by
  induction a with
  | nil => rfl
  | cons head rest ih =>
    rw [List.cons_append, find?_cons, find?_cons, ih]
    split <;> rfl

theorem find?_insert (key : String) (value : α) :
    find? name (insert key value entries) =
      if key = name then some value else find? name entries := by
  induction entries with
  | nil => rfl
  | cons head rest ih =>
    rw [insert]
    split
    · rename_i hk
      rw [find?_cons, find?_cons]
      subst hk
      split <;> rfl
    · rename_i hk
      split
      · rw [find?_cons]
      · rw [find?_cons, ih, find?_cons]
        by_cases hn : head.1 = name
        · subst hn
          rw [if_pos rfl, if_pos rfl, if_neg (Ne.symm hk)]
        · rw [if_neg hn, if_neg hn]

theorem find?_filter (keep : String → Bool) :
    find? name (entries.filter fun e => keep e.1) =
      if keep name then find? name entries else none := by
  induction entries with
  | nil => simp [find?]
  | cons head rest ih =>
    rw [List.filter_cons, find?_cons]
    split
    · rename_i hk
      rw [find?_cons, ih]
      by_cases hn : head.1 = name
      · subst hn
        simp [hk]
      · simp [hn]
    · rename_i hk
      rw [ih]
      by_cases hn : head.1 = name
      · subst hn
        simp [hk]
      · simp [hn]

theorem find?_erase (key : String) :
    find? name (erase key entries) = if name = key then none else find? name entries := by
  unfold erase
  rw [find?_filter (· != key)]
  by_cases h : name = key
  · simp [h]
  · simp [h]

theorem mem_of_find? (h : find? name entries = some value) : (name, value) ∈ entries := by
  induction entries with
  | nil => cases h
  | cons head rest ih =>
    rw [find?_cons] at h
    split at h
    · rename_i hk
      cases h
      subst hk
      exact List.mem_cons_self
    · exact List.mem_cons_of_mem _ (ih h)

theorem find?_eq_none_iff : find? name entries = none ↔ name ∉ entries.map (·.1) := by
  induction entries with
  | nil => simp [find?]
  | cons head rest ih =>
    rw [find?_cons, List.map_cons, List.mem_cons]
    by_cases h : head.1 = name
    · simp [h]
    · simp [h, ih, Ne.symm h]

/-- Where no key comes twice an entry is what its key is looked up as. -/
theorem find?_of_mem (nodup : (entries.map (·.1)).Nodup) {e : String × α} (h : e ∈ entries) :
    find? e.1 entries = some e.2 := by
  induction entries with
  | nil => cases h
  | cons head rest ih =>
    rw [List.map_cons, List.nodup_cons] at nodup
    rw [find?_cons]
    rcases List.mem_cons.1 h with rfl | h
    · exact if_pos rfl
    · have other : head.1 ≠ e.1 := fun same => nodup.1 (same ▸ List.mem_map_of_mem h)
      rw [if_neg other, ih nodup.2 h]

theorem increasing_map_fst (ordered : Ordered entries) :
    (entries.map (·.1)).Pairwise (· < ·) :=
  List.pairwise_map.mpr ordered

theorem find?_eq_some_iff (ordered : Ordered entries) :
    find? name entries = some value ↔ (name, value) ∈ entries :=
  ⟨mem_of_find?, find?_of_mem (nodup_of_increasing (increasing_map_fst ordered))⟩

/-- Entries in increasing order are determined by their answers. -/
theorem eq_of_find? {a b : List (String × α)} (ha : Ordered a) (hb : Ordered b)
    (h : ∀ name, find? name a = find? name b) : a = b := by
  have nodup {l : List (String × α)} (hl : Ordered l) : l.Nodup :=
    hl.imp fun {x y} hxy he => by
      subst he
      exact String.lt_irrefl x.1 hxy
  have perm : a.Perm b := by
    refine (List.perm_ext_iff_of_nodup (nodup ha) (nodup hb)).2 fun e => ?_
    rw [← find?_eq_some_iff ha, ← find?_eq_some_iff hb, h]
  refine List.Perm.eq_of_pairwise (fun x y _ _ hxy hyx => ?_) ha hb perm
  exact absurd (String.lt_trans hxy hyx) (String.lt_irrefl x.1)

/-- In increasing order the first key does not come again. -/
theorem Ordered.find?_head {head : String × α} {rest : List (String × α)}
    (ordered : Ordered (head :: rest)) : find? head.1 rest = none := by
  refine find?_eq_none_iff.2 fun hm => ?_
  obtain ⟨e, he, hk⟩ := List.mem_map.1 hm
  have lt := (List.pairwise_cons.mp ordered).1 e he
  rw [hk] at lt
  exact String.lt_irrefl head.1 lt

/-- Of entries filed one after the other, in increasing order, each is found. -/
theorem find?_foldl_insert {pairs : List (String × α)} (ordered : Ordered pairs) :
    find? name (pairs.foldl (fun es p => insert p.1 p.2 es) entries) =
      (find? name pairs).or (find? name entries) := by
  induction pairs generalizing entries with
  | nil => rfl
  | cons head rest ih =>
    rw [List.foldl_cons, ih (List.pairwise_cons.mp ordered).2, find?_insert, find?_cons]
    by_cases hk : head.1 = name
    · subst hk
      rw [ordered.find?_head, if_pos rfl, if_pos rfl]
      rfl
    · rw [if_neg hk, if_neg hk]

theorem mem_of_mem_foldl_insert {pairs : List (String × α)} {p : String × α}
    (there : p ∈ pairs.foldl (fun es p => insert p.1 p.2 es) entries) :
    p ∈ entries ∨ p ∈ pairs := by
  induction pairs generalizing entries with
  | nil => exact .inl there
  | cons head rest ih =>
    rcases ih there with there | there
    · rcases mem_insert there with rfl | there
      · exact .inr List.mem_cons_self
      · exact .inl there
    · exact .inr (List.mem_cons_of_mem _ there)

/-- Nothing is filed but the pairs given. -/
theorem mem_of_mem_ofPairs {pairs : List (String × α)} {p : String × α}
    (there : p ∈ ofPairs pairs) : p ∈ pairs :=
  (mem_of_mem_foldl_insert there).resolve_left List.not_mem_nil

end Entries

/-! ## Looking up in dictionaries -/

namespace Dict

variable {α : Type} (d : Dict α) (name : String)

@[simp] theorem get?_empty : (empty : Dict α).get? name = none := rfl

@[simp] theorem get?_insert (key : String) (value : α) :
    (d.insert key value).get? name = if key = name then some value else d.get? name :=
  Entries.find?_insert key value

@[simp] theorem get?_erase (key : String) :
    (d.erase key).get? name = if name = key then none else d.get? name :=
  Entries.find?_erase key

/-- Dictionaries with the same answers are equal. -/
theorem ext_get? {a b : Dict α} (h : ∀ name, a.get? name = b.get? name) : a = b := by
  have := Entries.eq_of_find? a.ordered b.ordered h
  cases a
  cases b
  subst this
  rfl

/-! ## Keys -/

theorem increasing_keys : d.keys.Pairwise (· < ·) := Entries.increasing_map_fst d.ordered

theorem mem_keys {d : Dict α} {name : String} : name ∈ d.keys ↔ (d.get? name).isSome = true := by
  rw [Option.isSome_iff_ne_none, ne_eq, get?, Entries.find?_eq_none_iff,
    Decidable.not_not, keys]

theorem get?_eq_none_iff {d : Dict α} {name : String} : d.get? name = none ↔ name ∉ d.keys := by
  rw [mem_keys, Bool.not_eq_true, Option.isSome_eq_false_iff, Option.isNone_iff_eq_none]

theorem isEmpty_iff_keys : d.isEmpty = true ↔ d.keys = [] := by
  unfold isEmpty keys
  rw [List.isEmpty_iff, List.map_eq_nil_iff]

/-! ## Union and restriction -/

/-- Both dictionaries in one; where both have a key, the second counts. -/
def union (a b : Dict α) : Dict α :=
  ⟨b.entries.foldl (fun es p => Entries.insert p.1 p.2 es) a.entries,
    a.ordered.foldl_insert b.entries⟩

@[simp] theorem get?_union (a b : Dict α) :
    (a.union b).get? name = (b.get? name).or (a.get? name) :=
  Entries.find?_foldl_insert b.ordered

/-- The entries whose keys satisfy a condition. -/
def restrict (keep : String → Bool) : Dict α :=
  ⟨d.entries.filter fun e => keep e.1, List.Pairwise.filter _ d.ordered⟩

@[simp] theorem get?_restrict (keep : String → Bool) :
    (d.restrict keep).get? name = if keep name then d.get? name else none :=
  Entries.find?_filter keep

end Dict

end EventRules
