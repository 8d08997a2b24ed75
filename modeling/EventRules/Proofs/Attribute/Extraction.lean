/-
Reading a document against its declarations loses no value. A document is read exactly when it is an
object whose declared members suit their declarations; if one does not, the first in the order of
names is the one that is told. Of a document that was read, taking a keyword yields every value
given under it, read at its type and in order: validation and extraction ask the same of a value.
-/
import EventRules.Attribute.Keyword
import EventRules.Proofs.Attribute.Map
import EventRules.Proofs.Attribute.Reading

namespace EventRules

/-! ## What suits a declaration -/

namespace Declaration

/-- The values that a member gives: the elements of a list where the keyword takes one, and else the
value itself. -/
def values (d : Declaration) (v : Json) : List Json :=
  match d.shape, v with
  | .multi, .array items => items
  | _, v => [v]

/-- The value is no list where one value is wanted, unless any JSON value will do. -/
def Shaped (d : Declaration) (v : Json) : Prop :=
  d.shape = .single → d.type ≠ .json → ∀ items, v ≠ .array items

/-- The value has the declared shape, and all that it gives can be read at the declared type. -/
structure Suits (d : Declaration) (v : Json) : Prop where
  shaped : d.Shaped v
  readable : ∀ w ∈ d.values v, (d.type.extract w).isSome = true

/-- The problem of a value that does not suit: its shape, or else the first value in it that cannot
be read. Either way it names the keyword. -/
inductive Refuses (d : Declaration) (name : String) (v : Json) : Problem → Prop
  | shape (unshaped : ¬ d.Shaped v) : Refuses d name v (.expectedSingle name)
  | type (shaped : d.Shaped v) {before : List Json} {w : Json} {after : List Json}
    (given : d.values v = before ++ w :: after)
    (readable : ∀ u ∈ before, (d.type.extract u).isSome = true)
    (unreadable : d.type.extract w = none) : Refuses d name v (.invalidValue name d.type w.print)

variable {d : Declaration} {name : String} {v : Json} {p : Problem}

theorem Refuses.not_suits (h : d.Refuses name v p) : ¬ d.Suits v := by
  intro suits
  cases h with
  | shape unshaped => exact unshaped suits.shaped
  | type shaped given readable unreadable =>
    have found := suits.readable _ (given ▸ List.mem_append_right _ List.mem_cons_self)
    rw [unreadable] at found
    cases found

theorem given_of_shaped (h : d.Shaped v) : d.given name v = .ok (d.values v) := by
  obtain ⟨shape, type⟩ := d
  cases v with
  | array items =>
    cases shape with
    | multi => rfl
    | single =>
      have json : type = .json := by
        by_contra other
        exact h rfl other items rfl
      subst json
      rfl
  | _ => cases shape <;> rfl

theorem given_of_unshaped (h : ¬ d.Shaped v) : d.given name v = .error (.expectedSingle name) := by
  unfold Shaped at h
  push Not at h
  obtain ⟨single, other, items, rfl⟩ := h
  unfold given
  rw [single]
  exact if_neg other

/-- A value is accepted exactly when it suits, and then with all that it gives. -/
theorem checked_eq_ok_iff {vs : List Json} :
    d.checked name v = .ok vs ↔ d.Suits v ∧ vs = d.values v := by
  constructor
  · intro h
    obtain ⟨given, accepted⟩ := checked_ok h
    have shaped : d.Shaped v := by
      by_contra unshaped
      rw [given_of_unshaped unshaped] at given
      cases given
    rw [given_of_shaped shaped] at given
    obtain rfl := Except.ok.inj given
    exact ⟨⟨shaped, accepted⟩, rfl⟩
  · rintro ⟨⟨shaped, readable⟩, rfl⟩
    have none_refused : (d.values v).find? (fun w => !d.type.accepts w) = none := by
      rw [List.find?_eq_none]
      intro w hw
      simp [ValueType.accepts, readable w hw]
    simp only [checked, given_of_shaped shaped, bind, Except.bind, none_refused]
    rfl

theorem refuses_of_checked (h : d.checked name v = .error p) : d.Refuses name v p := by
  by_cases shaped : d.Shaped v
  · simp only [checked, given_of_shaped shaped, bind, Except.bind] at h
    split at h
    · rename_i w found
      cases h
      obtain ⟨refused, before, after, split, accepted⟩ := List.find?_eq_some_iff_append.1 found
      refine .type shaped split (fun u hu => ?_) ?_
      · simpa [ValueType.accepts] using accepted u hu
      · simpa [ValueType.accepts] using refused
    · cases h
  · simp only [checked, given_of_unshaped shaped, bind, Except.bind] at h
    cases h
    exact .shape shaped

end Declaration

/-! ## The first offence -/

namespace DeclarationSet

variable {s : DeclarationSet} {d : Document} {p : Problem}

/-- The problem is that of the first of the members that does not suit its declaration. -/
def FirstOffence (s : DeclarationSet) (members : List (String × Json)) (p : Problem) : Prop :=
  ∃ before name v after declared, members = before ++ (name, v) :: after ∧
    (∀ e ∈ before, ∀ declared, s.get? e.1 = some declared → declared.Suits e.2) ∧
    s.get? name = some declared ∧ declared.Refuses name v p

theorem FirstOffence.cons {head : String × Json} {rest : List (String × Json)}
    (passed : ∀ declared, s.get? head.1 = some declared → declared.Suits head.2)
    (h : s.FirstOffence rest p) : s.FirstOffence (head :: rest) p := by
  obtain ⟨before, name, v, after, declared, rfl, suited, hd, refused⟩ := h
  exact ⟨head :: before, name, v, after, declared, rfl,
    List.forall_mem_cons.2 ⟨passed, suited⟩, hd, refused⟩

theorem firstOffence_of_ofMembers {members : List (String × Json)} {m : AttributeMap}
    (h : s.ofMembers m members = .error p) : s.FirstOffence members p := by
  induction members generalizing m with
  | nil => cases h
  | cons head rest ih =>
    rcases hd : s.get? head.1 with _ | declared
    · rw [ofMembers_cons_unknown hd] at h
      refine (ih h).cons fun declared hd' => ?_
      rw [hd] at hd'
      cases hd'
    · rcases hv : declared.checked head.1 head.2 with q | vs
      · rw [ofMembers, hd] at h
        simp only [hv] at h
        cases h
        exact ⟨[], head.1, head.2, rest, declared, rfl, List.forall_mem_nil _, hd,
          Declaration.refuses_of_checked hv⟩
      · rw [ofMembers_cons_declared hd hv] at h
        refine (ih h).cons fun declared' hd' => ?_
        rw [hd] at hd'
        cases hd'
        exact (Declaration.checked_eq_ok_iff.1 hv).1

/-- Every declared member of the document suits its declaration. -/
def Suited (s : DeclarationSet) (d : Document) : Prop :=
  ∀ name v declared, d.get? name = some v → s.get? name = some declared → declared.Suits v

theorem admits_iff_suited : s.Admits d ↔ s.Suited d := by
  constructor
  · intro admits name v declared hv hd
    obtain ⟨vs, checked⟩ := admits name v declared hv hd
    exact (Declaration.checked_eq_ok_iff.1 checked).1
  · intro suited name v declared hv hd
    exact ⟨_, Declaration.checked_eq_ok_iff.2 ⟨suited name v declared hv hd, rfl⟩⟩

/-- What refuses a document is the first of its members, in the order of names, that does not
suit. -/
theorem first_offence (h : s.attributes d.json = .error p) :
    ∃ name v declared, d.get? name = some v ∧ s.get? name = some declared ∧
      declared.Refuses name v p ∧ ¬ declared.Suits v ∧
      ∀ other w declared', d.get? other = some w → s.get? other = some declared' →
        ¬ declared'.Suits w → name ≤ other := by
  obtain ⟨before, name, v, after, declared, split, suited, hd, refused⟩ :=
    firstOffence_of_ofMembers h
  have ordered := d.ordered
  have mem {name : String} {v : Json} : d.get? name = some v ↔ (name, v) ∈ d.entries :=
    Entries.find?_eq_some_iff d.ordered
  refine ⟨name, v, declared, ?_, hd, refused, refused.not_suits,
    fun other w declared' hw hd' offends => ?_⟩
  · rw [mem, split]
    exact List.mem_append_right _ List.mem_cons_self
  · rw [mem, split] at hw
    rw [split] at ordered
    rcases List.mem_append.1 hw with hw | hw
    · exact absurd (suited _ hw declared' hd') offends
    · rcases List.mem_cons.1 hw with same | hw
      · cases same
        exact String.le_refl name
      · have behind := (List.pairwise_cons.1 (List.pairwise_append.1 ordered).2.1).1 _ hw
        exact Std.le_of_lt behind

end DeclarationSet

/-! ## Taking what was read -/

/-- Of a list all of whose values can be read nothing is left out. -/
theorem ValueType.map_extract {t : ValueType} :
    ∀ {vs : List Json}, (∀ v ∈ vs, (t.extract v).isSome = true) →
      vs.map t.extract = (vs.filterMap t.extract).map some
  | [], _ => rfl
  | v :: rest, h => by
    obtain ⟨readable, others⟩ := List.forall_mem_cons.1 h
    obtain ⟨x, hx⟩ := Option.isSome_iff_exists.1 readable
    rw [List.map_cons, List.filterMap_cons, hx, map_extract others]
    rfl

theorem ValueType.head?_extract {t : ValueType} {vs : List Json} {xs : List t.Carrier}
    (h : vs.map t.extract = xs.map some) : vs.head?.bind t.extract = xs.head? := by
  cases vs with
  | nil =>
    obtain rfl := List.map_eq_nil_iff.1 h.symm
    rfl
  | cons v rest =>
    cases xs with
    | nil => cases h
    | cons x others => exact (List.cons.inj h).1

namespace AttributeMap

/-- What is left of a map when a name is taken from it and nothing else is touched. -/
structure Without (m : AttributeMap) (name : String) (rest : AttributeMap) : Prop where
  gone : rest.values.get? name = none
  others : ∀ other, other ≠ name → rest.values.get? other = m.values.get? other
  unknown : rest.unknown = m.unknown

theorem without_drop (m : AttributeMap) (name : String) : m.Without name (m.drop name) where
  gone := by rw [values_drop, if_pos rfl]
  others other h := by rw [values_drop, if_neg h]
  unknown := rfl

end AttributeMap

namespace DeclarationSet

variable {s : DeclarationSet} {d : Document} {m : AttributeMap}

/-- Under a declared name of a document that was read stand the values its member gives. -/
theorem filed_of_declared (h : s.attributes d.json = .ok m) {name : String} {v : Json}
    {declared : Declaration} (hv : d.get? name = some v) (hd : s.get? name = some declared) :
    declared.Suits v ∧ m.values.get? name = some (declared.values v) := by
  have suits := admits_iff_suited.1 (admits_of_attributes h) name v declared hv hd
  refine ⟨suits, ?_⟩
  rw [values_attributes h, valuesOf, hv, hd]
  show (declared.checked name v).toOption = _
  rw [Declaration.checked_eq_ok_iff.2 ⟨suits, rfl⟩]
  rfl

/-- A document is read exactly when it is an object all of whose declared members suit; if it is
not, the error is that of the first member, in the order of names, that does not suit. Of a document
that was read, each declared keyword in it yields the values given under it, all of them and in
order, each read at the keyword's type. Taking the keyword takes nothing else. -/
theorem no_value_lost (s : DeclarationSet) :
    (∀ v : Json, (∀ members, v ≠ .object members) → s.attributes v = .error .notAnObject) ∧
    ∀ d : Document,
      ((∃ m, s.attributes d.json = .ok m) ↔ s.Suited d) ∧
      (∀ p, s.attributes d.json = .error p →
        ∃ name v declared, d.get? name = some v ∧ s.get? name = some declared ∧
          declared.Refuses name v p ∧ ¬ declared.Suits v ∧
          ∀ other w declared', d.get? other = some w → s.get? other = some declared' →
            ¬ declared'.Suits w → name ≤ other) ∧
      ∀ m, s.attributes d.json = .ok m →
        ∀ (t : ValueType) (key : Key t) (shape : Shape) (v : Json),
          s.get? key.name = some ⟨shape, t⟩ → d.get? key.name = some v →
            ∃ xs : List t.Carrier,
              (Declaration.values ⟨shape, t⟩ v).map t.extract = xs.map some ∧
              (m.takeAll key).1 = some xs ∧ m.Without key.name (m.takeAll key).2 ∧
              (m.take key).1 = xs.head? ∧ m.Without key.name (m.take key).2 := by
  refine ⟨fun v other => ?_, fun d => ⟨?_, fun p h => first_offence h, ?_⟩⟩
  · cases v with
    | object members => exact absurd rfl (other members)
    | _ => rfl
  · rw [attributes_ok_iff, admits_iff_suited]
  · intro m h t key shape v hd hv
    obtain ⟨suits, filed⟩ := filed_of_declared h hv hd
    have all := ValueType.map_extract suits.readable
    refine ⟨_, all, ?_, m.without_drop key.name, ?_, m.without_drop key.name⟩
    · show (m.values.get? key.name).map _ = _
      rw [filed]
      rfl
    · show (m.filed key.name).head?.bind t.extract = _
      rw [AttributeMap.filed, filed]
      exact ValueType.head?_extract all

/-- One keyword for a number, one for any number of texts, and one for any value. -/
def sampleDeclarations : DeclarationSet :=
  DeclarationSet.empty |>.single Keyword.minTime |>.multi Keyword.mob |>.single Keyword.blockOffset

/-- Texts that are written as other values, and a list where any value will do. -/
def mixedDocument : Document :=
  Dict.ofPairs [(Keyword.mob.name, .array [.string "zombie", .number (.integer 5), .bool true]),
    (Keyword.blockOffset.name, .array [.null]), ("weather", .null)]

/-- Two offences, the first of which in the order of names is the list. -/
def spoiltDocument : Document :=
  Dict.ofPairs [(Keyword.mob.name, .null), (Keyword.minTime.name, .array [.number (.integer 1)])]

theorem no_value_lost_mixed :
    (∃ m, sampleDeclarations.attributes mixedDocument.json = .ok m ∧
      (m.takeAll Keyword.mob).1 = some ["zombie", "5", "true"] ∧
      (m.take Keyword.mob).1 = some "zombie" ∧
      m.Without Keyword.mob.name (m.takeAll Keyword.mob).2) ∧
    ∃ p, sampleDeclarations.attributes spoiltDocument.json = .error p ∧
      ∃ name v declared, spoiltDocument.get? name = some v ∧
        sampleDeclarations.get? name = some declared ∧ declared.Refuses name v p ∧
        name ≤ Keyword.mob.name := by
  obtain ⟨-, documents⟩ := no_value_lost sampleDeclarations
  constructor
  · rcases h : sampleDeclarations.attributes mixedDocument.json with p | m
    · cases h
    · obtain ⟨-, -, read⟩ := documents mixedDocument
      obtain ⟨xs, all, taken, rest, first, -⟩ := read m h .string Keyword.mob .multi _ rfl rfl
      obtain rfl : ["zombie", "5", "true"] = xs :=
        (List.map_inj_right fun _ _ h => Option.some.inj h).1 all
      exact ⟨m, rfl, taken, first, rest⟩
  · rcases h : sampleDeclarations.attributes spoiltDocument.json with p | m
    · obtain ⟨-, refused, -⟩ := documents spoiltDocument
      obtain ⟨name, v, declared, hv, hd, refuses, -, first⟩ := refused p h
      refine ⟨p, rfl, name, v, declared, hv, hd, refuses, ?_⟩
      refine first Keyword.mob.name .null ⟨.multi, .string⟩ rfl rfl fun suits => ?_
      have readable := suits.readable .null (List.mem_singleton.2 rfl)
      cases readable
    · cases h

end DeclarationSet

end EventRules
