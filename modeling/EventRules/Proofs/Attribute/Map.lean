/-
Laws of attribute maps: what is looked up depends on nothing but the values under the name, looking
up after taking, and the names that are left, in order and each as often as it is there.
-/
import EventRules.Attribute.Map
import EventRules.Proofs.Dict
import Mathlib.Data.List.Basic

namespace EventRules.AttributeMap

/-! ## Looking -/

section Looking

variable {m m' : AttributeMap} {t : ValueType} {key : Key t}

theorem contains_congr (h : m.values.get? key.name = m'.values.get? key.name) :
    m.contains key = m'.contains key := by
  rw [contains, contains, Dict.contains, Dict.contains, h]

theorem get?_congr (h : m.values.get? key.name = m'.values.get? key.name) :
    m.get? key = m'.get? key := by
  rw [get?, get?, filed, filed, h]

theorem getAll_congr (h : m.values.get? key.name = m'.values.get? key.name) :
    m.getAll key = m'.getAll key := by
  rw [getAll, getAll, filed, filed, h]

end Looking

/-! ## Taking -/

variable (m : AttributeMap) {name : String} {names : List String}

theorem values_drop (key : String) :
    (m.drop key).values.get? name = if name = key then none else m.values.get? name :=
  Dict.get?_erase m.values name key

theorem values_dropAll :
    (m.dropAll names).values.get? name = if name ∈ names then none else m.values.get? name := by
  unfold dropAll
  induction names generalizing m with
  | nil => simp
  | cons key rest ih =>
    rw [List.foldl_cons, ih, values_drop]
    by_cases h : name = key
    · simp [h]
    · simp [h]

theorem unknown_dropAll : (m.dropAll names).unknown = m.unknown := by
  unfold dropAll
  induction names generalizing m with
  | nil => rfl
  | cons key rest ih => exact ih (m.drop key)

theorem dropAll_append (a b : List String) : m.dropAll (a ++ b) = (m.dropAll a).dropAll b :=
  List.foldl_append

/-- Looking up after other names are dropped. -/
theorem values_dropAll_of_not_mem (h : name ∉ names) :
    (m.dropAll names).values.get? name = m.values.get? name := by
  rw [values_dropAll, if_neg h]

variable {m}

theorem ext_values {m' : AttributeMap} (values : ∀ name, m.values.get? name = m'.values.get? name)
    (unknown : m.unknown = m'.unknown) : m = m' := by
  have same := Dict.ext_get? values
  cases m
  cases m'
  subst same unknown
  rfl

/-- Names that are not there may be dropped. -/
theorem dropAll_of_absent (h : ∀ name ∈ names, m.values.get? name = none) :
    m.dropAll names = m := by
  refine ext_values (fun name => ?_) (unknown_dropAll m)
  rw [values_dropAll]
  split
  · rename_i there
    exact (h name there).symm
  · rfl

section Behind

variable {t : ValueType} {key : Key t}

theorem get?_dropAll (h : key.name ∉ names) : (m.dropAll names).get? key = m.get? key :=
  get?_congr (m.values_dropAll_of_not_mem h)

theorem getAll_dropAll (h : key.name ∉ names) : (m.dropAll names).getAll key = m.getAll key :=
  getAll_congr (m.values_dropAll_of_not_mem h)

end Behind

theorem take_eq {t : ValueType} (key : Key t) :
    m.take key = (m.get? key, m.dropAll [key.name]) := rfl

theorem takeAll_getD {t : ValueType} (key : Key t) :
    (m.takeAll key).1.getD [] = m.getAll key := by
  unfold takeAll getAll filed
  rcases m.values.get? key.name with _ | values <;> rfl

/-! ## What is left -/

theorem perm_keys : m.keys.Perm (m.values.keys ++ m.unknown.keys) := List.merge_perm_append _

theorem mem_keys_iff :
    name ∈ m.keys ↔ (m.values.get? name).isSome = true ∨ (m.unknown.get? name).isSome = true := by
  rw [perm_keys.mem_iff, List.mem_append, Dict.mem_keys, Dict.mem_keys]

theorem isEmpty_iff : m.isEmpty = true ↔ m.keys = [] := by
  unfold isEmpty
  rw [Bool.and_eq_true, Dict.isEmpty_iff_keys, Dict.isEmpty_iff_keys, ← List.append_eq_nil_iff]
  constructor
  · intro h
    exact (h ▸ perm_keys).eq_nil
  · intro h
    exact (h ▸ perm_keys (m := m)).symm.eq_nil

/-- What is left is listed in increasing order. -/
theorem sorted_keys : m.keys.Pairwise (· ≤ ·) := by
  have sorted {d : List String} (hd : d.Pairwise (· < ·)) :
      d.Pairwise fun a b => decide (a ≤ b) = true :=
    hd.imp fun hab => decide_eq_true (Std.le_of_lt hab)
  have merged : m.keys.Pairwise fun a b => decide (a ≤ b) = true :=
    List.pairwise_merge (fun a b c hab hbc => by
        rw [decide_eq_true_eq] at hab hbc ⊢
        exact String.le_trans hab hbc)
      (fun a b => by
        rw [Bool.or_eq_true, decide_eq_true_eq, decide_eq_true_eq]
        exact String.le_total a b)
      _ _ (sorted m.values.increasing_keys) (sorted m.unknown.increasing_keys)
  exact merged.imp of_decide_eq_true

/-- A name is listed once for the values under it and once as unknown. -/
theorem count_keys (name : String) :
    m.keys.count name = (m.values.get? name).isSome.toNat + (m.unknown.get? name).isSome.toNat := by
  have once {β : Type} (d : Dict β) : d.keys.count name = (d.get? name).isSome.toNat := by
    rw [(nodup_of_increasing d.increasing_keys).count]
    split
    · rename_i there
      rw [Dict.mem_keys.1 there, Bool.toNat_true]
    · rename_i missing
      rw [Dict.get?_eq_none_iff.2 missing, Option.isSome_none, Bool.toNat_false]
  rw [perm_keys.count_eq, List.count_append, once, once]

/-- What is left is listed in strictly increasing order exactly if no name is both filed and
unknown. -/
theorem increasing_keys_iff :
    m.keys.Pairwise (· < ·) ↔
      ∀ name, m.values.get? name = none ∨ m.unknown.get? name = none := by
  constructor
  · intro increasing name
    have once := List.nodup_iff_count.1 (nodup_of_increasing increasing) name
    rw [count_keys] at once
    rcases filed : m.values.get? name with _ | values
    · exact .inl rfl
    · rcases unknown : m.unknown.get? name with _ | mark
      · exact .inr rfl
      · simp [filed, unknown] at once
  · intro apart
    have nodup : m.keys.Nodup := by
      refine List.nodup_iff_count.2 fun name => ?_
      rw [count_keys]
      rcases apart name with missing | missing
      · rw [missing, Option.isSome_none, Bool.toNat_false, Nat.zero_add]
        exact Bool.toNat_le _
      · rw [missing, Option.isSome_none, Bool.toNat_false, Nat.add_zero]
        exact Bool.toNat_le _
    -- a sorted list without repetition increases strictly
    exact (sorted_keys.and nodup).imp fun ⟨le, ne⟩ => Std.lt_of_le_of_ne le ne

end EventRules.AttributeMap
