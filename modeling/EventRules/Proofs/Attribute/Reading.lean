/-
Reading a document by declarations, name by name: it succeeds exactly when the value of every
declared member is well-formed, and then the attributes hold, under each name for itself, what the
declaration makes of the member of that name, and as unknown the names that are not declared. Where
it fails, the document is no object or one of its values has the wrong shape or type.
-/
import EventRules.Attribute.Declaration
import EventRules.Proofs.Dict
import EventRules.Proofs.Problem

namespace EventRules

/-- A rule document: JSON values filed under names. -/
abbrev Document := Dict Json

/-- The object that holds the members of a document. -/
def Document.json (d : Document) : Json := .object d.entries

/-- The problem refuses a document as a whole: it is no object, or a value in it has the wrong shape
or type. -/
def Problem.Malformed : Problem → Prop
  | .notAnObject => True
  | .expectedSingle _ => True
  | .invalidValue _ _ _ => True
  | _ => False

/-! ## Values of one member -/

namespace Declaration

variable {d : Declaration} {name : String} {v : Json} {values : List Json}

theorem checked_ok (h : d.checked name v = .ok values) :
    d.given name v = .ok values ∧ ∀ w ∈ values, d.type.accepts w = true := by
  unfold checked at h
  rcases hg : d.given name v with p | vs
  · rw [hg] at h
    cases h
  · rw [hg] at h
    simp only [bind, Except.bind] at h
    split at h
    · cases h
    · rename_i hf
      cases h
      refine ⟨rfl, fun w hw => ?_⟩
      have := List.find?_eq_none.1 hf w hw
      simpa using this

/-- Only an empty list gives no value. -/
theorem given_ne_nil (h : d.given name v = .ok values) (hv : v ≠ .array []) : values ≠ [] := by
  unfold given at h
  split at h
  · split at h
    · cases h
      exact List.cons_ne_nil _ _
    · cases h
  · cases h
    rintro rfl
    exact hv rfl
  · cases h
    exact List.cons_ne_nil _ _

theorem failsOnly_given (d : Declaration) (name : String) (v : Json) :
    Reported.FailsOnly Problem.Malformed (d.given name v) := by
  unfold given
  split
  · split
    · exact Reported.failsOnly_ok _
    · exact Reported.failsOnly_error trivial
  · exact Reported.failsOnly_ok _
  · exact Reported.failsOnly_ok _

theorem failsOnly_checked (d : Declaration) (name : String) (v : Json) :
    Reported.FailsOnly Problem.Malformed (d.checked name v) := by
  unfold checked
  refine Reported.failsOnly_bind (failsOnly_given d name v) fun values _ => ?_
  split
  · exact Reported.failsOnly_error trivial
  · exact Reported.failsOnly_ok _

theorem given_multi (t : ValueType) : given ⟨.multi, t⟩ name v = .ok v.listed := by
  cases v <;> rfl

end Declaration

/-! ## All members -/

namespace DeclarationSet

variable (s : DeclarationSet)

/-- The values that a document gives under a declared name, none where one of them is malformed. -/
def valuesOf (d : Document) (name : String) : Option (List Json) :=
  match d.get? name, s.get? name with
  | some v, some declared => (declared.checked name v).toOption
  | _, _ => none

/-- Every declared member of a document is well-formed. -/
def Admits (d : Document) : Prop :=
  ∀ name v declared, d.get? name = some v → s.get? name = some declared →
    ∃ values, declared.checked name v = .ok values

variable {s}

theorem valuesOf_of_absent {d : Document} {name : String} (h : d.get? name = none) :
    s.valuesOf d name = none := by
  rw [valuesOf, h]

theorem valuesOf_congr {a b : Document} {name : String} (h : a.get? name = b.get? name) :
    s.valuesOf a name = s.valuesOf b name := by
  rw [valuesOf, valuesOf, h]

theorem ofMembers_cons_unknown {m : AttributeMap} {head : String × Json}
    (h : s.get? head.1 = none) (rest : List (String × Json)) :
    s.ofMembers m (head :: rest) = s.ofMembers (m.fileUnknown head.1) rest := by
  rw [ofMembers, h]

theorem ofMembers_cons_declared {m : AttributeMap} {head : String × Json} {declared : Declaration}
    {values : List Json} (h : s.get? head.1 = some declared)
    (hv : declared.checked head.1 head.2 = .ok values) (rest : List (String × Json)) :
    s.ofMembers m (head :: rest) = s.ofMembers (m.fileAll head.1 values) rest := by
  rw [ofMembers, h]
  simp only [hv]

theorem ofMembers_cons_ok {m m' : AttributeMap} {head : String × Json}
    {rest : List (String × Json)} (h : s.ofMembers m (head :: rest) = .ok m') :
    (s.get? head.1 = none ∧ s.ofMembers (m.fileUnknown head.1) rest = .ok m') ∨
    ∃ declared values, s.get? head.1 = some declared ∧
      declared.checked head.1 head.2 = .ok values ∧
      s.ofMembers (m.fileAll head.1 values) rest = .ok m' := by
  rcases hd : s.get? head.1 with _ | declared
  · rw [ofMembers_cons_unknown hd] at h
    exact .inl ⟨rfl, h⟩
  · rw [ofMembers, hd] at h
    simp only at h
    split at h
    · cases h
    · rename_i values hv
      exact .inr ⟨declared, values, rfl, hv, h⟩

/-- What is filed under a name comes from the member of that name, or was there before. -/
theorem ofMembers_values {members : List (String × Json)} (ordered : Entries.Ordered members)
    {m m' : AttributeMap} (h : s.ofMembers m members = .ok m') (name : String) :
    m'.values.get? name =
      ((Entries.find? name members).bind fun v =>
        (s.get? name).bind fun declared => (declared.checked name v).toOption).or
          (m.values.get? name) := by
  induction members generalizing m with
  | nil =>
    cases h
    rfl
  | cons head rest ih =>
    obtain ⟨-, tail⟩ := List.pairwise_cons.mp ordered
    rw [Entries.find?_cons]
    by_cases hn : head.1 = name
    · subst hn
      rw [if_pos rfl]
      rcases ofMembers_cons_ok h with ⟨hd, h⟩ | ⟨declared, values, hd, hv, h⟩
      · rw [ih tail h, ordered.find?_head, hd]
        rfl
      · rw [ih tail h, ordered.find?_head, hd]
        simp [AttributeMap.fileAll, hv, Except.toOption]
    · rw [if_neg hn]
      rcases ofMembers_cons_ok h with ⟨hd, h⟩ | ⟨declared, values, hd, hv, h⟩
      · rw [ih tail h]
        rfl
      · rw [ih tail h]
        simp [AttributeMap.fileAll, hn]

/-- A name is unknown if a member bears it that is not declared, or was so before. -/
theorem ofMembers_unknown {members : List (String × Json)} {m m' : AttributeMap}
    (h : s.ofMembers m members = .ok m') (name : String) :
    (m'.unknown.get? name).isSome =
      (((Entries.find? name members).isSome && (s.get? name).isNone) ||
        (m.unknown.get? name).isSome) := by
  induction members generalizing m with
  | nil =>
    cases h
    rfl
  | cons head rest ih =>
    rw [Entries.find?_cons]
    rcases ofMembers_cons_ok h with ⟨hd, h⟩ | ⟨declared, values, hd, -, h⟩
    · rw [ih h]
      by_cases hn : head.1 = name
      · subst hn
        simp [AttributeMap.fileUnknown, hd]
      · simp [AttributeMap.fileUnknown, hn]
    · rw [ih h]
      by_cases hn : head.1 = name
      · subst hn
        simp [AttributeMap.fileAll, hd]
      · simp [AttributeMap.fileAll, hn]

theorem ofMembers_total {members : List (String × Json)} (m : AttributeMap)
    (h : ∀ name v declared, (name, v) ∈ members → s.get? name = some declared →
      ∃ values, declared.checked name v = .ok values) : ∃ m', s.ofMembers m members = .ok m' := by
  induction members generalizing m with
  | nil => exact ⟨m, rfl⟩
  | cons head rest ih =>
    have later (m : AttributeMap) := ih m fun name v declared hm =>
      h name v declared (List.mem_cons_of_mem _ hm)
    rcases hd : s.get? head.1 with _ | declared
    · rw [ofMembers_cons_unknown hd]
      exact later _
    · obtain ⟨values, hv⟩ := h head.1 head.2 declared List.mem_cons_self hd
      rw [ofMembers_cons_declared hd hv]
      exact later _

theorem ofMembers_wellFormed {members : List (String × Json)} {m m' : AttributeMap}
    (h : s.ofMembers m members = .ok m') {name : String} {v : Json} {declared : Declaration}
    (hm : (name, v) ∈ members) (hd : s.get? name = some declared) :
    ∃ values, declared.checked name v = .ok values := by
  induction members generalizing m with
  | nil => cases hm
  | cons head rest ih =>
    rcases ofMembers_cons_ok h with ⟨hn, h⟩ | ⟨declared', values, hd', hv, h⟩
    · rcases List.mem_cons.1 hm with rfl | hm
      · rw [hd] at hn
        cases hn
      · exact ih h hm
    · rcases List.mem_cons.1 hm with rfl | hm
      · rw [hd] at hd'
        cases hd'
        exact ⟨values, hv⟩
      · exact ih h hm

theorem failsOnly_ofMembers (s : DeclarationSet) :
    ∀ (m : AttributeMap) (members : List (String × Json)),
      Reported.FailsOnly Problem.Malformed (s.ofMembers m members)
  | m, [] => Reported.failsOnly_ok _
  | m, (name, v) :: rest => by
    rw [ofMembers]
    split
    · exact failsOnly_ofMembers s _ rest
    · rename_i declared _
      split
      · rename_i p refused
        exact Reported.failsOnly_error (declared.failsOnly_checked name v p refused)
      · exact failsOnly_ofMembers s _ rest

/-! ## Documents -/

/-- A JSON value that cannot be read as a document is malformed. -/
theorem failsOnly_attributes (s : DeclarationSet) (document : Json) :
    Reported.FailsOnly Problem.Malformed (s.attributes document) := by
  cases document with
  | object members => exact failsOnly_ofMembers s _ members
  | _ => exact Reported.failsOnly_error trivial

variable {d : Document} {m : AttributeMap}

theorem values_attributes (h : s.attributes d.json = .ok m) (name : String) :
    m.values.get? name = s.valuesOf d name := by
  rw [ofMembers_values d.ordered h, valuesOf]
  change ((d.get? name).bind _).or none = _
  rw [Option.or_none]
  rcases d.get? name with _ | v
  · rfl
  · rcases s.get? name with _ | declared <;> rfl

theorem unknown_attributes (h : s.attributes d.json = .ok m) (name : String) :
    (m.unknown.get? name).isSome = ((d.get? name).isSome && (s.get? name).isNone) := by
  rw [ofMembers_unknown h]
  exact Bool.or_false _

theorem admits_of_attributes (h : s.attributes d.json = .ok m) : s.Admits d :=
  fun _ _ _ hv hd => ofMembers_wellFormed h (Entries.mem_of_find? hv) hd

/-- What is filed are the declared names of the document. -/
theorem isSome_values_attributes (h : s.attributes d.json = .ok m) (name : String) :
    (m.values.get? name).isSome = ((d.get? name).isSome && (s.get? name).isSome) := by
  rw [values_attributes h, valuesOf]
  rcases hv : d.get? name with _ | v
  · rfl
  · rcases hd : s.get? name with _ | declared
    · rfl
    · obtain ⟨values, hc⟩ := admits_of_attributes h name v declared hv hd
      show (declared.checked name v).toOption.isSome = true
      rw [hc]
      rfl

theorem absent_attributes (h : s.attributes d.json = .ok m) {name : String}
    (absent : d.get? name = none) : m.values.get? name = none := by
  rw [values_attributes h]
  exact valuesOf_of_absent absent

theorem undeclared_attributes (h : s.attributes d.json = .ok m) {name : String}
    (undeclared : s.get? name = none) : m.values.get? name = none := by
  have filed := isSome_values_attributes h name
  rw [undeclared, Option.isSome_none, Bool.and_false, Option.isSome_eq_false_iff] at filed
  exact Option.isNone_iff_eq_none.1 filed

/-- No name is both filed and unknown. -/
theorem values_or_unknown_attributes (h : s.attributes d.json = .ok m) (name : String) :
    m.values.get? name = none ∨ m.unknown.get? name = none := by
  rcases hd : s.get? name with _ | declared
  · exact .inl (undeclared_attributes h hd)
  · have unknown := unknown_attributes h name
    rw [hd, Option.isNone_some, Bool.and_false, Option.isSome_eq_false_iff] at unknown
    exact .inr (Option.isNone_iff_eq_none.1 unknown)

/-- A document is read exactly when all its declared members are well-formed. -/
theorem attributes_ok_iff : (∃ m, s.attributes d.json = .ok m) ↔ s.Admits d := by
  constructor
  · rintro ⟨m, h⟩
    exact admits_of_attributes h
  · intro h
    exact ofMembers_total .empty fun name v declared hm hd =>
      h name v declared ((Entries.find?_eq_some_iff d.ordered).2 hm) hd

/-- A part of a document is read as it is in the whole. -/
theorem attributes_restrict (h : s.attributes d.json = .ok m) (keep : String → Bool) :
    ∃ m', s.attributes (Document.json (d.restrict keep)) = .ok m' ∧
      ∀ name, m'.values.get? name = if keep name then m.values.get? name else none := by
  have admits : s.Admits (d.restrict keep) := by
    intro name v declared hv hd
    rw [Dict.get?_restrict] at hv
    split at hv
    · exact admits_of_attributes h name v declared hv hd
    · cases hv
  obtain ⟨m', hm'⟩ := attributes_ok_iff.2 admits
  refine ⟨m', hm', fun name => ?_⟩
  rw [values_attributes hm', values_attributes h]
  have member : (d.restrict keep).get? name = _ := Dict.get?_restrict d name keep
  by_cases kept : keep name = true
  · rw [if_pos kept] at member ⊢
    exact valuesOf_congr member
  · rw [if_neg kept] at member ⊢
    exact valuesOf_of_absent member

end DeclarationSet

end EventRules
