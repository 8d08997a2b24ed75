/-
What a run of operations leaves of the attributes of a document. One operation touches the values
under its own name and nothing else; so whether a name is there is a matter of the operations under
it alone, and a run is followed name by name. The names that the document brings undeclared are kept
apart: no operation reaches them, and where a value is inserted under one of them, the name is
listed twice.
-/
import EventRules.Attribute.Operation
import EventRules.Proofs.Attribute.Extraction

namespace EventRules

namespace AttributeMap

variable {α : Type}

/-! ## One operation -/

namespace Operation

/-- What an operation makes of the values under its own name. -/
def effect : Operation α → Option (List Json) → Option (List Json)
  | .insert _ value, filed => some (filed.getD [] ++ [value])
  | .get _, filed | .getAll _, filed => filed
  | .take _, _ | .takeAll _, _ | .fetch _, _ => none
  | .consume _ _, _ | .consumeOrElse _ _ _, _ | .consumeAll _ _, _ => none

/-- The operation files a value under the name. -/
def Inserts (op : Operation α) (name : String) : Prop :=
  match op with
  | .insert key _ => key.name = name
  | _ => False

/-- The operation takes what is under the name, if anything. -/
def Removes (op : Operation α) (name : String) : Prop :=
  match op with
  | .insert _ _ | .get _ | .getAll _ => False
  | op => op.name = name

variable {op : Operation α} {name : String}

theorem Inserts.name_eq (h : op.Inserts name) : op.name = name := by
  cases op with
  | insert key value => exact h
  | _ => cases h

theorem Removes.name_eq (h : op.Removes name) : op.name = name := by
  cases op with
  | insert key value => cases h
  | get key => cases h
  | getAll key => cases h
  | _ => exact h

theorem isSome_effect (filed : Option (List Json)) :
    (op.effect filed).isSome = true ↔
      op.Inserts op.name ∨ filed.isSome = true ∧ ¬ op.Removes op.name := by
  cases op with
  | insert key value => exact iff_of_true rfl (.inl rfl)
  | _ => simp [effect, Inserts, Removes]

end Operation

variable {m : AttributeMap} {op : Operation α} {ops : List (Operation α)} {name : String}

theorem rest_consumeOrElse {t : ValueType} (key : Key t) (handler : t.Carrier → α)
    (otherwise : Unit → α) : (m.consumeOrElse key handler otherwise).2 = m.drop key.name := by
  unfold consumeOrElse
  split
  · rename_i taken
    exact (congrArg Prod.snd taken).symm
  · rename_i taken
    exact (congrArg Prod.snd taken).symm

/-- An operation acts on the values under its own name. -/
theorem values_after :
    (m.after op).values.get? name =
      if op.name = name then op.effect (m.values.get? name) else m.values.get? name := by
  have dropped (key : String) : (m.drop key).values.get? name =
      if key = name then none else m.values.get? name := by
    rw [values_drop]
    exact if_congr eq_comm rfl rfl
  cases op with
  | insert key value =>
    show (m.values.insert key.name _).get? name = if key.name = name then _ else _
    rw [Dict.get?_insert]
    by_cases same : key.name = name
    · rw [if_pos same, if_pos same, same]
      rfl
    · rw [if_neg same, if_neg same]
  | get key => exact (ite_self _).symm
  | getAll key => exact (ite_self _).symm
  | consumeOrElse key handler otherwise =>
    show (m.consumeOrElse key handler otherwise).2.values.get? name = _
    rw [rest_consumeOrElse]
    exact dropped key.name
  | take key => exact dropped key.name
  | takeAll key => exact dropped key.name
  | consume key handler => exact dropped key.name
  | consumeAll key handler => exact dropped key.name
  | fetch key => exact dropped key.name

theorem unknown_after : (m.after op).unknown = m.unknown := by
  cases op with
  | consumeOrElse key handler otherwise =>
    show (m.consumeOrElse key handler otherwise).2.unknown = _
    rw [rest_consumeOrElse]
    rfl
  | _ => rfl

theorem isSome_after :
    ((m.after op).values.get? name).isSome = true ↔
      op.Inserts name ∨ (m.values.get? name).isSome = true ∧ ¬ op.Removes name := by
  rw [values_after]
  by_cases same : op.name = name
  · subst same
    rw [if_pos rfl]
    exact Operation.isSome_effect _
  · have inserts : ¬ op.Inserts name := fun h => same h.name_eq
    have removes : ¬ op.Removes name := fun h => same h.name_eq
    rw [if_neg same, or_iff_right inserts, and_iff_left removes]

/-- Two maps answer alike about a keyword. -/
structure Alike {t : ValueType} (key : Key t) (m m' : AttributeMap) : Prop where
  contains : m'.contains key = m.contains key
  get : m'.get? key = m.get? key
  getAll : m'.getAll key = m.getAll key
  listed : m'.keys.count key.name = m.keys.count key.name

/-- An operation changes nothing about the keywords of other names. -/
theorem alike_after {t : ValueType} {key : Key t} (other : key.name ≠ op.name) :
    Alike key m (m.after op) := by
  have same : (m.after op).values.get? key.name = m.values.get? key.name := by
    rw [values_after, if_neg other.symm]
  refine ⟨contains_congr same, get?_congr same, getAll_congr same, ?_⟩
  rw [count_keys, count_keys, same, unknown_after]

/-! ## A run -/

/-- The name is held after the operations: it was there at the start or was inserted, and was not
removed since. -/
def Held (start : Prop) (name : String) (ops : List (Operation α)) : Prop :=
  (start ∧ ∀ op ∈ ops, ¬ op.Removes name) ∨
    ∃ before op since, ops = before ++ op :: since ∧ op.Inserts name ∧
      ∀ op ∈ since, ¬ op.Removes name

theorem held_cons {start : Prop} :
    Held start name (op :: ops) ↔
      Held (op.Inserts name ∨ start ∧ ¬ op.Removes name) name ops := by
  constructor
  · rintro (⟨there, kept⟩ | ⟨before, last, since, split, inserts, kept⟩)
    · obtain ⟨first, kept⟩ := List.forall_mem_cons.1 kept
      exact .inl ⟨.inr ⟨there, first⟩, kept⟩
    · rcases List.cons_eq_append_iff.1 split with ⟨rfl, same⟩ | ⟨before, rfl, rest⟩
      · obtain ⟨rfl, rfl⟩ := List.cons.inj same
        exact .inl ⟨.inl inserts, kept⟩
      · exact .inr ⟨before, last, since, rest, inserts, kept⟩
  · rintro (⟨inserts | ⟨there, first⟩, kept⟩ | ⟨before, last, since, rfl, inserts, kept⟩)
    · exact .inr ⟨[], op, ops, rfl, inserts, kept⟩
    · exact .inl ⟨there, List.forall_mem_cons.2 ⟨first, kept⟩⟩
    · exact .inr ⟨op :: before, last, since, rfl, inserts, kept⟩

theorem unknown_run : (m.run ops).unknown = m.unknown := by
  induction ops generalizing m with
  | nil => rfl
  | cons op rest ih => exact ih.trans unknown_after

/-- What is there after a run is what was there before it or was inserted, and was not removed
since. -/
theorem isSome_run :
    ((m.run ops).values.get? name).isSome = true ↔
      Held ((m.values.get? name).isSome = true) name ops := by
  induction ops generalizing m with
  | nil => simp [run, Held]
  | cons op rest ih =>
    show (((m.after op).run rest).values.get? name).isSome = true ↔ _
    rw [ih, held_cons, isSome_after]

end AttributeMap

/-! ## The books -/

namespace DeclarationSet

open AttributeMap

variable {α : Type} {s : DeclarationSet} {d : Document} {m : AttributeMap}

/-- The name is that of a declared member of the document. -/
def Knows (s : DeclarationSet) (d : Document) (name : String) : Prop :=
  name ∈ d.keys ∧ name ∈ s.keys

/-- The name is that of a member of the document that is not declared. -/
def Ignores (s : DeclarationSet) (d : Document) (name : String) : Prop :=
  name ∈ d.keys ∧ name ∉ s.keys

/-- What can be read off the attributes of a document after a run of operations on them. -/
structure Books (s : DeclarationSet) (d : Document) (ops : List (Operation α))
    (m : AttributeMap) : Prop where
  /-- A keyword is there if it was read or inserted, and was not removed since. -/
  there : ∀ {t : ValueType} (key : Key t),
    m.contains key = true ↔ Held (s.Knows d key.name) key.name ops
  /-- What is listed are the undeclared names and those that are there. -/
  listed : ∀ name, name ∈ m.keys ↔ s.Ignores d name ∨ Held (s.Knows d name) name ops
  sorted : m.keys.Pairwise (· ≤ ·)
  /-- A name is listed once, unless it is undeclared and there is something under it. -/
  once : ∀ name, name ∈ m.keys → ¬ (s.Ignores d name ∧ Held (s.Knows d name) name ops) →
    m.keys.count name = 1
  twice : ∀ name, s.Ignores d name → Held (s.Knows d name) name ops → m.keys.count name = 2
  /-- The names increase strictly exactly if there is nothing under an undeclared one. -/
  increasing : m.keys.Pairwise (· < ·) ↔
    ∀ name, s.Ignores d name → ¬ Held (s.Knows d name) name ops
  empty : m.isEmpty = true ↔ m.keys = []

theorem Books.ignored_listed {ops : List (Operation α)} (books : s.Books d ops m) {name : String}
    (ignored : s.Ignores d name) : name ∈ m.keys :=
  (books.listed name).2 (.inl ignored)

theorem books_run (h : s.attributes d.json = .ok m) (ops : List (Operation α)) :
    s.Books d ops (m.run ops) := by
  have known (name : String) : (m.values.get? name).isSome = true ↔ s.Knows d name := by
    rw [isSome_values_attributes h, Bool.and_eq_true, Knows, Dict.mem_keys, Dict.mem_keys]
  have ignored (name : String) :
      ((m.run ops).unknown.get? name).isSome = true ↔ s.Ignores d name := by
    rw [unknown_run, unknown_attributes h, Bool.and_eq_true, Ignores, Dict.mem_keys,
      ← Dict.get?_eq_none_iff, Option.isNone_iff_eq_none]
  have held (name : String) : ((m.run ops).values.get? name).isSome = true ↔
      Held (s.Knows d name) name ops := by
    rw [isSome_run, known]
  constructor
  case there => exact fun key => held key.name
  case listed =>
    intro name
    rw [mem_keys_iff, held, ignored, or_comm]
  case sorted => exact sorted_keys
  case once =>
    intro name listed apart
    rw [count_keys]
    rcases mem_keys_iff.1 listed with filed | unknown
    · have missing := fun h => apart ⟨(ignored name).1 h, (held name).1 filed⟩
      rw [filed, Bool.eq_false_iff.2 missing]
      rfl
    · have missing := fun h => apart ⟨(ignored name).1 unknown, (held name).1 h⟩
      rw [unknown, Bool.eq_false_iff.2 missing]
      rfl
  case twice =>
    intro name undeclared there
    rw [count_keys, (held name).2 there, (ignored name).2 undeclared]
    rfl
  case increasing =>
    rw [increasing_keys_iff]
    refine forall_congr' fun name => ?_
    rw [← held, ← ignored, ← Option.not_isSome_iff_eq_none, ← Option.not_isSome_iff_eq_none,
      or_comm, ← imp_iff_not_or]
  case empty => exact isEmpty_iff

/-- The keys increase strictly all along a run exactly if nothing in it is inserted under an
undeclared name. -/
theorem increasing_along_iff (h : s.attributes d.json = .ok m) (ops : List (Operation α)) :
    (∀ done, done <+: ops → (m.run done).keys.Pairwise (· < ·)) ↔
      ∀ op ∈ ops, ∀ name, op.Inserts name → ¬ s.Ignores d name := by
  constructor
  · intro increasing op hop name inserts ignored
    obtain ⟨before, since, rfl⟩ := List.append_of_mem hop
    have point := increasing (before ++ [op]) ⟨since, by rw [List.append_assoc]; rfl⟩
    exact (books_run h _).increasing.1 point name ignored
      (.inr ⟨before, op, [], rfl, inserts, List.forall_mem_nil _⟩)
  · intro clear done initial
    refine (books_run h done).increasing.2 fun name ignored held => ?_
    rcases held with ⟨known, -⟩ | ⟨before, op, since, rfl, inserts, -⟩
    · exact ignored.2 known.2
    · have hop : op ∈ ops := initial.subset (List.mem_append_right _ List.mem_cons_self)
      exact clear op hop name inserts ignored

/-- The books of a document's attributes are kept through every run of operations: whether a keyword
is there, what is listed, and whether anything is left are told by what the document brings and by
the operations under each name. An undeclared name stays listed, and an operation changes nothing
about the other names. The names are listed once each exactly as long as nothing is inserted under
an undeclared one. -/
theorem books_kept (h : s.attributes d.json = .ok m) (ops : List (Operation α)) :
    s.Books d ops (m.run ops) ∧
    (∀ name, s.Ignores d name → name ∈ (m.run ops).keys) ∧
    (∀ (op : Operation α) {t : ValueType} (key : Key t), key.name ≠ op.name →
      Alike key (m.run ops) ((m.run ops).after op)) ∧
    ((∀ done, done <+: ops → (m.run done).keys.Pairwise (· < ·)) ↔
      ∀ op ∈ ops, ∀ name, op.Inserts name → ¬ s.Ignores d name) :=
  ⟨books_run h ops, fun _ => (books_run h ops).ignored_listed, fun _ _ _ => alike_after,
    increasing_along_iff h ops⟩

/-- A keyword is taken, and another value is inserted under it and under a name that is neither
declared nor in the document. -/
def sampleRun : List (Operation Unit) :=
  [.takeAll Keyword.mob, .insert Keyword.mob (.string "husk"), .insert Keyword.dimension .null]

theorem books_kept_mixed :
    ∃ m, sampleDeclarations.attributes mixedDocument.json = .ok m ∧
      (∀ done, done <+: sampleRun → (m.run done).keys.Pairwise (· < ·)) ∧
      Keyword.weather.name ∈ (m.run sampleRun).keys ∧
      Alike Keyword.blockOffset (m.run sampleRun)
        ((m.run sampleRun).after (.take Keyword.mob : Operation Unit)) := by
  have clear : ∀ op ∈ sampleRun, ¬ sampleDeclarations.Ignores mixedDocument op.name := by
    unfold Ignores
    decide
  obtain ⟨m, h⟩ : ∃ m, sampleDeclarations.attributes mixedDocument.json = .ok m := ⟨_, rfl⟩
  obtain ⟨-, ignored, alike, increasing⟩ := books_kept h sampleRun
  refine ⟨m, h, increasing.2 fun op hop name inserts => ?_, ignored _ ⟨by decide, by decide⟩,
    alike _ _ (by decide)⟩
  rw [← inserts.name_eq]
  exact clear op hop

/-- A value is inserted under the name of the document that is not declared. -/
def undeclaredRun : List (Operation Unit) := [.insert Keyword.weather .null]

/-- A value inserted under an undeclared name of the document lists the name twice. -/
theorem undeclared_name_listed_twice :
    ∃ m, sampleDeclarations.attributes mixedDocument.json = .ok m ∧
      (m.run undeclaredRun).keys.count Keyword.weather.name = 2 ∧
      ¬ (m.run undeclaredRun).keys.Pairwise (· < ·) := by
  obtain ⟨m, h⟩ : ∃ m, sampleDeclarations.attributes mixedDocument.json = .ok m := ⟨_, rfl⟩
  have books := books_run h undeclaredRun
  have ignored : sampleDeclarations.Ignores mixedDocument Keyword.weather.name :=
    ⟨by decide, by decide⟩
  have held : Held (sampleDeclarations.Knows mixedDocument Keyword.weather.name)
      Keyword.weather.name undeclaredRun :=
    .inr ⟨[], _, [], rfl, rfl, List.forall_mem_nil _⟩
  exact ⟨m, h, books.twice _ ignored held, fun increasing =>
    books.increasing.1 increasing _ ignored held⟩

end DeclarationSet

end EventRules
