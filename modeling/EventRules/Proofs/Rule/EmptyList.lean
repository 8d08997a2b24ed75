/-
An empty list under the keyword of a condition. It says nothing, and a document that is extended by
it keeps its checks. Blocks are the exception: of an empty list of blocks a check is made that
nothing passes, unless the offset is malformed and the check is dropped with it.
-/
import EventRules.Proofs.Condition.Disjunction
import EventRules.Proofs.Rule.Effect
import EventRules.Proofs.Rule.Keyword
import EventRules.Proofs.Rule.Order

namespace EventRules

/-! ## Tests of no values -/

/-- What is given as the offset, if anything is, can be read as one. -/
def BlockOffset.Readable (given : Option Json) : Prop :=
  ∀ v, given = some v → ∃ offset, ofJson v = .ok offset

namespace Condition

variable {companion : Option Json}

theorem made_blockClause_nil (host : Host) (h : BlockOffset.Readable companion) :
    blockClause.made host [] companion = some (.fact fun _ => false) := by
  rw [Clause.made_of_supported rfl]
  show (blockTest host.registry [] companion).result = _
  rcases companion with _ | v
  · rfl
  · obtain ⟨offset, read⟩ := h v rfl
    simp only [blockTest, read]
    rfl

theorem made_blockClause_of_malformed (host : Host) (h : ¬BlockOffset.Readable companion)
    (values : List Json) : blockClause.made host values companion = none := by
  unfold BlockOffset.Readable at h
  push Not at h
  obtain ⟨v, rfl, malformed⟩ := h
  rw [Clause.made_of_supported rfl]
  show (blockTest host.registry (values.filterMap ValueType.json?) (some v)).result = _
  rcases read : BlockOffset.ofJson v with p | offset
  · simp only [blockTest, read]
    rfl
  · exact absurd read (malformed offset)

end Condition

/-- No values make no test, except of blocks. -/
theorem Clause.Form.made_nil {c : Clause} (form : c.Form) {t : ValueType}
    (every : c.intake = .every t) (other : c.keyword ≠ Keyword.block.name) (host : Host)
    (companion : Option Json) : c.made host [] companion = none := by
  rcases able : c.lacking host with _ | capability
  · rw [made_of_supported able]
    cases form with
    | block => exact absurd rfl other
    | oneOf | biome | biomeType | equipment | bauble | mob => rfl
    | _ => cases every
  · exact made_of_lacking able

theorem Condition.made_nil {c : Clause} (hc : c ∈ catalogue) {t : ValueType}
    (every : c.intake = .every t) (other : c.keyword ≠ Keyword.block.name) (host : Host)
    (companion : Option Json) : c.made host [] companion = none := by
  rcases List.mem_cons.1 hc with rfl | hc
  · cases every
  · exact (form_of_mem_factual c hc).made_nil every other host companion

/-! ## One empty list more -/

/-- The attributes `b` are `a` with an empty list filed under a name. -/
structure AttributeMap.FilesNil (a b : AttributeMap) (name : String) : Prop where
  absent : a.values.get? name = none
  filed : b.values.get? name = some []
  others : ∀ other, other ≠ name → b.values.get? other = a.values.get? other

namespace Condition

variable {host : Host} {a b : AttributeMap} {c : Clause}

/-- The checks stay the same if no test is made of the empty list. -/
theorem result_checks_of_filesNil (hc : c ∈ catalogue) (h : a.FilesNil b c.keyword)
    (offset : c.keyword ≠ Keyword.blockOffset.name)
    (made : c.made host [] (c.companion.bind b.get?) = none) :
    (checks host b).result = (checks host a).result := by
  rw [checks, checks, result_checksBy, result_checksBy]
  refine List.filterMap_congr fun c' hc' => ?_
  by_cases same : c'.keyword = c.keyword
  · obtain rfl := eq_of_keyword hc' hc same
    rw [Clause.result_check, Clause.result_check, h.filed, h.absent, Option.bind_some, made]
    rfl
  -- another clause finds what it found before, blocks also their offset
  · rw [Clause.check_congr (h.others _ same)]
    intro key hk
    obtain ⟨-, rfl⟩ := companion_of_mem_catalogue hc' hk
    exact h.others _ (Ne.symm offset)

theorem mem_checksBy_of_filesNil {clauses : List Clause} (hc : c ∈ clauses)
    (h : a.FilesNil b c.keyword) {test : Test}
    (made : c.made host [] (c.companion.bind b.get?) = some test) :
    ⟨c.keyword, test⟩ ∈ (checksBy host b clauses).result := by
  refine List.mem_filterMap.2 ⟨c, hc, ?_⟩
  rw [Clause.result_check, h.filed, Option.bind_some, made]
  rfl

/-- No event passes all checks if one on its surroundings fails: this one comes before all that can
end in a fault. -/
theorem allPass_of_fails {m : AttributeMap} {check : Check}
    (hm : check ∈ (checksBy host m surroundings).result) (e : Event) (g : Generator)
    (fails : (check.test.run e g).1 = .ok false) :
    (Check.allPass (checks host m).result e g).1 = .ok false := by
  rw [Check.allPass_eq_joint (countP_draws_checks host m), Check.joint, checks, catalogue,
    checksBy_append, List.map_append]
  refine Check.conclude_append_of_fails ?_ (fails ▸ List.mem_map_of_mem hm) _
  intro v hv
  obtain ⟨check, there, rfl⟩ := List.mem_map.1 hv
  exact decided_of_surroundings there e g

end Condition

namespace DeclarationSet

variable {s : DeclarationSet} {d : Document} {m : AttributeMap} {t : ValueType} {name : String}

/-- A document is still read if an empty list is filed in it. -/
theorem attributes_insert_nil (h : s.attributes d.json = .ok m)
    (declares : s.get? name = some ⟨.multi, t⟩) (absent : d.get? name = none) :
    ∃ m', s.attributes (Document.json (d.insert name (.array []))) = .ok m' ∧
      m.FilesNil m' name := by
  have checked : Declaration.checked ⟨.multi, t⟩ name (.array []) = .ok [] :=
    checked_multi_iff.2 ⟨rfl, List.forall_mem_nil _⟩
  obtain ⟨m', hm'⟩ := attributes_ok_iff.2 <| (admits_insert_iff declares).2
    ⟨admits_erase (fun _ _ => rfl) (admits_of_attributes h), [], checked⟩
  refine ⟨m', hm', absent_attributes h absent, ?_, fun other hn => ?_⟩
  · rw [values_attributes hm', valuesOf, Dict.get?_insert, if_pos rfl, declares]
    show (Declaration.checked _ _ _).toOption = _
    rw [checked]
    rfl
  · rw [values_attributes hm', values_attributes h]
    refine valuesOf_congr ?_
    rw [Dict.get?_insert, if_neg (Ne.symm hn)]

/-- The companion of blocks is the offset as the document gives it. -/
theorem companionOf_blockClause (admits : s.Admits d)
    (declares : s.get? Keyword.blockOffset.name = some ⟨.single, .json⟩) :
    s.companionOf d Condition.blockClause = d.get? Keyword.blockOffset.name := by
  show ((s.valuesOf d Keyword.blockOffset.name).getD []).head?.bind ValueType.json? = _
  rw [valuesOf, declares]
  rcases hv : d.get? Keyword.blockOffset.name with _ | v
  · rfl
  · obtain ⟨values, checked⟩ := admits _ v _ hv declares
    obtain ⟨given, accepted⟩ := Declaration.checked_ok checked
    have alone : Declaration.given ⟨.single, .json⟩ Keyword.blockOffset.name v = .ok [v] := by
      cases v <;> rfl
    obtain rfl := Except.ok.inj (alone.symm.trans given)
    have read := accepted v List.mem_cons_self
    simp only [checked]
    show ValueType.json? v = some v
    cases v with
    | null => cases read
    | _ => rfl

end DeclarationSet

/-! ## Documents -/

/-- An empty list under the keyword bars the rule of a document from all events: the keyword is that
of blocks, and the document gives no offset or one that can be read. -/
def Document.BarredBy (d : Document) (name : String) : Prop :=
  name = Keyword.block.name ∧ BlockOffset.Readable (d.get? Keyword.blockOffset.name)

namespace RuleKind

variable {kind : RuleKind} {d : Document} {a b : AttributeMap} {name : String}

theorem filesNil_conditions (h : a.FilesNil b name) (hn : name ∈ kind.conditionKeywords) :
    (kind.conditions a).FilesNil (kind.conditions b) name where
  absent := values_conditions_none h.absent
  filed := by
    obtain ⟨-, -, checked, -⟩ := clause_of_conditionKeyword hn
    rw [values_conditions, if_neg checked, h.filed]
  others other hn := by
    rw [values_conditions, values_conditions, h.others other hn]

theorem companion_conditions {m : AttributeMap} {c : Clause} (hc : c ∈ Condition.catalogue) :
    (c.companion.bind (kind.conditions m).get? : Option Json) = c.companion.bind m.get? := by
  rcases hk : c.companion with _ | key
  · rfl
  · obtain ⟨-, rfl⟩ := Condition.companion_of_mem_catalogue hc hk
    refine AttributeMap.get?_congr ?_
    rw [values_conditions, if_neg fun detour => absurd detour.2 (by decide)]

/-- What blocks find as their offset beside an empty list is what the document says without it. -/
theorem companion_insert_nil {m : AttributeMap}
    (h : kind.declarations.attributes
      (Document.json (d.insert Condition.blockClause.keyword (.array []))) = .ok m)
    (admits : kind.declarations.Admits d) :
    (Condition.blockClause.companion.bind (kind.conditions m).get? : Option Json) =
      d.get? Keyword.blockOffset.name := by
  have hc := Condition.blockClause_mem_catalogue
  refine (companion_conditions hc).trans ((DeclarationSet.companion_attributes h).trans ?_)
  rw [DeclarationSet.companionOf_insert hc,
    DeclarationSet.companionOf_blockClause admits (clause_table kind).2.1]

/-- Of an empty list that bars all events a clause makes a test that fails, and of others none. -/
theorem made_insert_nil (host : Host) {m : AttributeMap} {c : Clause} (hc : c ∈ Condition.catalogue)
    {t : ValueType} (every : c.intake = .every t)
    (h : kind.declarations.attributes (Document.json (d.insert c.keyword (.array []))) = .ok m)
    (admits : kind.declarations.Admits d) :
    (d.BarredBy c.keyword ∧ c.made host [] (c.companion.bind (kind.conditions m).get?) =
      some (.fact fun _ => false)) ∨
    (¬d.BarredBy c.keyword ∧ c.made host [] (c.companion.bind (kind.conditions m).get?) = none) := by
  by_cases block : c.keyword = Keyword.block.name
  · obtain rfl := Condition.eq_of_keyword hc Condition.blockClause_mem_catalogue block
    rw [companion_insert_nil h admits]
    by_cases readable : BlockOffset.Readable (d.get? Keyword.blockOffset.name)
    · exact .inl ⟨⟨block, readable⟩, Condition.made_blockClause_nil host readable⟩
    · exact .inr ⟨fun barred => readable barred.2,
        Condition.made_blockClause_of_malformed host readable []⟩
  · exact .inr ⟨fun barred => block barred.1, Condition.made_nil hc every block host _⟩

/-- A document that loads still does so if an empty list is filed under the keyword of a condition
with several values. Its checks have the same keywords then and the same events match, exactly
except for blocks whose offset is not malformed: with their empty list the rule matches no event. -/
theorem empty_list_neutral_iff (kind : RuleKind) (host : Host) {d : Document} {r : kind.Rule}
    (h : (kind.ofDocument host d.json).result = .ok (some r)) {name : String}
    (hn : name ∈ kind.conditionKeywords) {t : ValueType}
    (multi : kind.declarations.get? name = some ⟨.multi, t⟩) (absent : d.get? name = none) :
    ∃ r', (kind.ofDocument host (Document.json (d.insert name (.array [])))).result =
        .ok (some r') ∧
      (((kind.checks r').map Check.keyword = (kind.checks r).map Check.keyword ∧
        ∀ e g, kind.isMatch r' e g = kind.isMatch r e g) ↔ ¬d.BarredBy name) ∧
      (d.BarredBy name → ∀ e g, (kind.isMatch r' e g).1 = .ok false) := by
  obtain ⟨m, hm, calm, rfl⟩ := ofDocument_eq_some_iff.1 h
  obtain ⟨m', hm', filed⟩ := DeclarationSet.attributes_insert_nil hm multi absent
  have calm' : kind.Calm host m' := by
    refine (calm_congr fun other taken => (filed.others other ?_).symm).1 calm
    rintro rfl
    exact (mem_conditionKeywords.1 hn).2 (by simp [taken])
  have files := filesNil_conditions filed hn
  obtain ⟨-, -, -, c, hc, rfl, -⟩ := clause_of_conditionKeyword hn
  refine ⟨_, ofDocument_eq_some_iff.2 ⟨m', hm', calm', rfl⟩, ?_⟩
  simp only [isMatch_eq, checks_ruleOf]
  have every := Intake.eq_every (((clause_table kind).1 c hc).1 _ multi).symm
  rcases made_insert_nil host hc every hm' (DeclarationSet.admits_of_attributes hm) with
    ⟨barred, made⟩ | ⟨open_to_all, made⟩
  · obtain rfl := Condition.eq_of_keyword hc Condition.blockClause_mem_catalogue barred.1
    have there := Condition.mem_checksBy_of_filesNil Condition.blockClause_mem_surroundings files
      made
    refine ⟨iff_of_false ?_ (not_not_intro barred), fun _ e g =>
      Condition.allPass_of_fails there e g rfl⟩
    -- the document alone has no check under the keyword
    rintro ⟨same, -⟩
    have checked := List.mem_map_of_mem (f := Check.keyword)
      (Condition.mem_checksBy_of_filesNil hc files made)
    rw [← Condition.checks, same] at checked
    have filed := Option.isSome_iff_ne_none.1 (Condition.filed_of_mem_keywords checked)
    exact filed files.absent
  · have offset : c.keyword ≠ Keyword.blockOffset.name := fun same =>
      (mem_conditionKeywords.1 hn).2 (by simp [same])
    rw [Condition.result_checks_of_filesNil hc files offset made]
    exact ⟨iff_of_true ⟨rfl, fun _ _ => rfl⟩ open_to_all, fun barred => absurd barred open_to_all⟩

theorem empty_list_neutral_iff_night :
    ∃ r r', (spawn.ofDocument .bare nightDocument.json).result = .ok (some r) ∧
      (spawn.ofDocument .bare
        (Document.json (nightDocument.insert Keyword.biome.name (.array [])))).result =
          .ok (some r') ∧
      (spawn.checks r').map Check.keyword = (spawn.checks r).map Check.keyword ∧
      ∀ e g, spawn.isMatch r' e g = spawn.isMatch r e g := by
  have loads : (spawn.rule? .bare nightDocument.json).isSome = true ∧
      Keyword.biome.name ∈ spawn.conditionKeywords ∧
      spawn.declarations.get? Keyword.biome.name = some ⟨.multi, .string⟩ ∧
      (nightDocument.get? Keyword.biome.name).isNone = true := by
    decide +kernel
  obtain ⟨loads, condition, multi, absent⟩ := loads
  obtain ⟨r, h⟩ := exists_rule loads
  obtain ⟨r', h', neutral, -⟩ := empty_list_neutral_iff spawn .bare h condition multi
    (Option.isNone_iff_eq_none.1 absent)
  obtain ⟨keywords, verdicts⟩ := neutral.2 fun barred => absurd barred.1 (by decide)
  exact ⟨r, r', h, h', keywords, verdicts⟩

/-- A document without any condition gives a rule for every event; with an empty list of blocks it
gives a rule for none. -/
theorem empty_blocks_bar :
    ∃ r r', (spawn.ofDocument .bare (Document.json .empty)).result = .ok (some r) ∧
      (spawn.ofDocument .bare
        (Document.json (Dict.empty.insert Keyword.block.name (.array [])))).result =
          .ok (some r') ∧
      Keyword.block.name ∈ spawn.conditionKeywords ∧
      spawn.declarations.get? Keyword.block.name = some ⟨.multi, .json⟩ ∧
      (spawn.checks r).map Check.keyword = [] ∧
      (spawn.checks r').map Check.keyword = [Keyword.block.name] ∧
      ∀ e g, spawn.isMatch r e g = (.ok true, g) ∧ spawn.isMatch r' e g = (.ok false, g) := by
  have declared : Keyword.block.name ∈ spawn.conditionKeywords ∧
      spawn.declarations.get? Keyword.block.name = some ⟨.multi, .json⟩ := by
    decide +kernel
  exact ⟨_, _, rfl, rfl, declared.1, declared.2, rfl, rfl, fun _ _ => ⟨rfl, rfl⟩⟩

end RuleKind

end EventRules
