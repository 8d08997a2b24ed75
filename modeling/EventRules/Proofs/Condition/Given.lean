/-
What a clause is given by a document, and the checks of a document under one keyword. A keyword that
is filed in a document anew gets the check that its clause makes of the new value and of what the
document says under the companion of the clause; the rest of the document only has to be well-formed.
-/
import EventRules.Proofs.Attribute.Reading
import EventRules.Proofs.Condition.Silence

namespace EventRules

/-! ## Values of clauses -/

/-- How the keyword of a clause is declared: with one value if the clause takes the first, else with
a list. -/
def Intake.declaration : Intake → Declaration
  | .first t => ⟨.single, t⟩
  | .every t => ⟨.multi, t⟩

theorem Declaration.given_single_ne_nil {t : ValueType} {name : String} {v : Json}
    {values : List Json} (h : given ⟨.single, t⟩ name v = .ok values) : values ≠ [] := by
  unfold given at h
  cases v with
  | array items =>
    simp only at h
    split at h
    · cases h
      exact List.cons_ne_nil _ _
    · cases h
  | _ =>
    cases h
    exact List.cons_ne_nil _ _

/-- A clause takes something from every value that is well-formed by its declaration. -/
theorem Intake.take_of_checked {i : Intake} {name : String} {v : Json} {values : List Json}
    (h : i.declaration.checked name v = .ok values) : ∃ input, i.take values = some input := by
  obtain ⟨given, accepted⟩ := Declaration.checked_ok h
  cases i with
  | first t =>
    obtain ⟨input, taken, -⟩ := take_of_accepted (i := .first t)
      (Declaration.given_single_ne_nil given) accepted
    exact ⟨input, taken⟩
  | every t => exact ⟨_, rfl⟩

/-- The values of a document under the keyword of a clause, none if they are not well-formed. -/
def Clause.given (c : Clause) (d : Document) : Option (List Json) :=
  (d.get? c.keyword).bind fun v => (c.intake.declaration.checked c.keyword v).toOption

/-- What a clause makes of the values under its keyword. -/
def Clause.made (c : Clause) (host : Host) (values : List Json) (companion : Option Json) :
    Option Test :=
  (c.intake.take values).bind fun input => (c.test host input companion).result

theorem Clause.result_check {c : Clause} {host : Host} {m : AttributeMap} :
    (c.check host m).result =
      ((m.values.get? c.keyword).bind fun values =>
        c.made host values (c.companion.bind m.get?)).map (Check.mk c.keyword) := by
  unfold check made
  rcases m.values.get? c.keyword with _ | values
  · rfl
  · rw [Option.bind_some, Option.bind_some]
    rcases c.intake.take values with _ | input <;> rfl

/-! ## The checks under a keyword -/

namespace Condition

theorem filter_keyword_of_other {host : Host} {m : AttributeMap} {name : String}
    {clauses : List Clause} (other : ∀ c ∈ clauses, c.keyword ≠ name) :
    (clauses.filterMap fun c => (c.check host m).result).filter
      (fun check => check.keyword = name) = [] := by
  refine List.filter_eq_nil_iff.2 fun check hm => ?_
  obtain ⟨c, hc, h⟩ := List.mem_filterMap.1 hm
  rw [Clause.keyword_of_check h, decide_eq_true_eq]
  exact other c hc

/-- The checks under the keyword of a clause are those of this clause. -/
theorem filter_keyword_checks {host : Host} {m : AttributeMap} {c : Clause} (hc : c ∈ catalogue) :
    (checks host m).result.filter (fun check => check.keyword = c.keyword) =
      (c.check host m).result.toList := by
  obtain ⟨before, behind, split⟩ := List.append_of_mem hc
  have nodup := nodup_keywords
  rw [split, List.map_append, List.map_cons, List.nodup_middle, List.nodup_cons,
    List.mem_append, not_or, List.mem_map, List.mem_map] at nodup
  obtain ⟨⟨first, last⟩, -⟩ := nodup
  rw [checks, result_checksBy, split, List.filterMap_append, List.filter_append,
    filter_keyword_of_other fun c' hc' h => first ⟨c', hc', h⟩, List.nil_append,
    List.filterMap_cons]
  have none_behind : (behind.filterMap fun c => (c.check host m).result).filter
      (fun check => check.keyword = c.keyword) = [] :=
    filter_keyword_of_other fun c' hc' h => last ⟨c', hc', h⟩
  rcases h : (c.check host m).result with _ | check
  · exact none_behind
  · show (check :: _).filter _ = [check]
    rw [List.filter_cons_of_pos (by simpa using Clause.keyword_of_check h), none_behind]

end Condition

namespace DeclarationSet

variable {s : DeclarationSet} {host : Host} {d : Document} {c : Clause}

/-- The checks that a document gets under a keyword. -/
def checksUnder (s : DeclarationSet) (host : Host) (d : Document) (name : String) : List Check :=
  match s.attributes d.json with
  | .ok m => (Condition.compile host m).result.1.filter fun check => check.keyword = name
  | .error _ => []

/-- What a document says under the companion of a clause. -/
def companionOf (s : DeclarationSet) (d : Document) (c : Clause) : Option Json :=
  c.companion.bind fun key => ((s.valuesOf d key.name).getD []).head?.bind ValueType.json?

theorem companion_attributes {m : AttributeMap} (h : s.attributes d.json = .ok m) :
    (c.companion.bind m.get? : Option Json) = s.companionOf d c := by
  unfold companionOf
  congr 1
  funext key
  show (((m.values.get? key.name).getD []).head?.bind _) = _
  rw [values_attributes h]
  rfl

/-- The checks under a keyword are the one that its clause makes of the attributes. -/
theorem checksUnder_of_attributes {m : AttributeMap} (h : s.attributes d.json = .ok m)
    (hc : c ∈ Condition.catalogue) :
    s.checksUnder host d c.keyword =
      (((m.values.get? c.keyword).bind fun values =>
        c.made host values (c.companion.bind m.get?)).map (Check.mk c.keyword)).toList := by
  rw [checksUnder, h]
  show (Condition.compile host m).result.1.filter _ = _
  rw [Condition.compile_eq, Condition.filter_keyword_checks hc, Clause.result_check]

/-- The checks under a keyword are the one that its clause makes of the values and the companion. -/
theorem checksUnder_of_admits (admits : s.Admits d) (hc : c ∈ Condition.catalogue) :
    s.checksUnder host d c.keyword =
      (((s.valuesOf d c.keyword).bind fun values =>
        c.made host values (s.companionOf d c)).map (Check.mk c.keyword)).toList := by
  obtain ⟨m, h⟩ := attributes_ok_iff.2 admits
  rw [checksUnder_of_attributes h hc, values_attributes h, companion_attributes h]

/-- The check of a clause that asks something of the first value. -/
theorem checksUnder_single {m : AttributeMap} {t : ValueType} {key : Key t}
    {holds : t.Carrier → Event → Bool} (listed : Clause.single key holds ∈ Condition.catalogue)
    (h : s.attributes d.json = .ok m) {v : t.Carrier} (given : m.get? key = some v) :
    s.checksUnder host d key.name = [⟨key.name, .fact (holds v)⟩] := by
  have made : ((m.values.get? key.name).bind fun values =>
      (Clause.single key holds).made host values none) = some (.fact (holds v)) := by
    unfold AttributeMap.get? AttributeMap.filed at given
    rcases filed : m.values.get? key.name with _ | values
    · rw [filed] at given
      cases given
    · rw [filed, Option.getD_some] at given
      rw [Option.bind_some, Clause.made]
      exact Option.bind_eq_some_iff.2 ⟨v, given, rfl⟩
  refine (checksUnder_of_attributes h listed).trans ?_
  exact congrArg (fun test => (Option.map (Check.mk key.name) test).toList) made

theorem checksUnder_of_not_admits (refused : ¬s.Admits d) (name : String) :
    s.checksUnder host d name = [] := by
  unfold checksUnder
  split
  · rename_i m h
    exact absurd (admits_of_attributes h) refused
  · rfl

/-! ## One keyword filed anew -/

variable {v : Json} {declared : Declaration}

/-- Without a name a document is well-formed if one is that agrees with it under all others. -/
theorem admits_erase {a : Document} {name : String}
    (same : ∀ other, other ≠ name → a.get? other = d.get? other) (h : s.Admits a) :
    s.Admits (d.erase name) := by
  intro other w declared hw hd
  rw [Dict.get?_erase] at hw
  by_cases hn : other = name
  · rw [if_pos hn] at hw
    cases hw
  · rw [if_neg hn] at hw
    exact h other w declared ((same other hn).trans hw) hd

theorem admits_insert_iff {name : String} (declares : s.get? name = some declared) :
    s.Admits (d.insert name v) ↔
      s.Admits (d.erase name) ∧ ∃ values, declared.checked name v = .ok values := by
  constructor
  · intro h
    refine ⟨admits_erase (fun other hn => ?_) h, h name v declared (by simp) declares⟩
    rw [Dict.get?_insert, if_neg (Ne.symm hn)]
  · rintro ⟨others, checked⟩ other w declared' hw hd
    rw [Dict.get?_insert] at hw
    by_cases hn : name = other
    · rw [if_pos hn] at hw
      cases hw
      subst hn
      cases declares.symm.trans hd
      exact checked
    · rw [if_neg hn] at hw
      refine others other w declared' ?_ hd
      rw [Dict.get?_erase, if_neg (Ne.symm hn)]
      exact hw

/-- The companion of a clause is filed under another keyword. -/
theorem companionOf_insert (hc : c ∈ Condition.catalogue) :
    s.companionOf (d.insert c.keyword v) c = s.companionOf d c := by
  unfold companionOf
  rcases h : c.companion with _ | key
  · rfl
  · obtain ⟨block, rfl⟩ := Condition.companion_of_mem_catalogue hc h
    have other : (d.insert c.keyword v).get? Keyword.blockOffset.name =
        d.get? Keyword.blockOffset.name := by
      rw [Dict.get?_insert, if_neg (by rw [block]; decide)]
    rw [Option.bind_some, Option.bind_some, valuesOf_congr other]

/-- A value filed under a keyword gives a check under it exactly if the rest of the document and the
value are well-formed and the clause of the keyword makes a test of the value. -/
theorem checksUnder_insert_eq_iff (hc : c ∈ Condition.catalogue)
    (declares : s.get? c.keyword = some declared) {check : Check} :
    s.checksUnder host (d.insert c.keyword v) c.keyword = [check] ↔
      s.Admits (d.erase c.keyword) ∧ ∃ values test, declared.checked c.keyword v = .ok values ∧
        c.made host values (s.companionOf d c) = some test ∧ check = ⟨c.keyword, test⟩ := by
  by_cases admits : s.Admits (d.insert c.keyword v)
  · obtain ⟨others, values, checked⟩ := (admits_insert_iff declares).1 admits
    have found : s.valuesOf (d.insert c.keyword v) c.keyword = some values := by
      rw [valuesOf, Dict.get?_insert, if_pos rfl, declares]
      show (declared.checked c.keyword v).toOption = _
      rw [checked]
      rfl
    rw [checksUnder_of_admits admits hc, found, Option.bind_some, companionOf_insert hc]
    rcases made : c.made host values (s.companionOf d c) with _ | test
    · simp [checked, made]
    · simp [checked, made, others, eq_comm]
  · rw [checksUnder_of_not_admits admits]
    refine iff_of_false (by simp) ?_
    rintro ⟨others, values, test, checked, -⟩
    exact admits ((admits_insert_iff declares).2 ⟨others, values, checked⟩)

end DeclarationSet

end EventRules
