/-
Rules where integrations are missing. Each keyword of a document that needs a missing integration
costs one warning and nothing else: apart from the warnings the document is loaded as if these
keywords did not stand in it, and what the missing integrations would answer is never asked.
-/
import EventRules.Proofs.Condition.Integration
import EventRules.Proofs.Rule.Leftover

namespace EventRules

open Reported

/-- Whether a report tells of a missing integration. -/
def Report.aboutIntegration (r : Report) : Bool :=
  match r.problem with
  | .missingCapability _ _ => true
  | _ => false

theorem Problem.OfValue.not_aboutIntegration {r : Report} (h : r.problem.OfValue) :
    r.aboutIntegration = false := by
  obtain ⟨severity, problem⟩ := r
  cases problem with
  | missingCapability capability key => cases h
  | _ => rfl

/-- Reports about values are none of them about an integration. -/
theorem Reported.Only.filter_aboutIntegration {α : Type} {r : Reported α}
    (h : Only Problem.OfValue r) :
    r.reports.filter Report.aboutIntegration = [] ∧
      r.reports.filter (!·.aboutIntegration) = r.reports := by
  constructor
  · refine List.filter_eq_nil_iff.2 fun report hm => ?_
    rw [(h report hm).not_aboutIntegration]
    decide
  · refine List.filter_eq_self.2 fun report hm => ?_
    rw [(h report hm).not_aboutIntegration]
    rfl

namespace RuleKind

/-! ## Keywords without their integration -/

/-- The integration that a keyword of a kind needs and the host lacks. Names that the kind does not
declare need none: they are no conditions, whatever they mean for another kind. -/
def missing (kind : RuleKind) (host : Host) (name : String) : Option Capability :=
  (kind.declarations.get? name).bind fun _ => host.lacking name

/-- The members of a document whose integrations, if they need any, are there. -/
def supported (kind : RuleKind) (host : Host) (d : Document) : Document :=
  d.restrict fun name => (kind.missing host name).isNone

/-- One warning for each member of a document whose integration is missing. -/
def integrationReports (kind : RuleKind) (host : Host) (d : Document) : List Report :=
  d.keys.filterMap fun name =>
    (kind.missing host name).map fun capability => ⟨.warning, .missingCapability capability name⟩

variable {kind : RuleKind} {host : Host} {d : Document} {m m' : AttributeMap} {name : String}

theorem missing_of_lacking (h : host.lacking name = none) : kind.missing host name = none := by
  rw [missing, h]
  rcases kind.declarations.get? name with _ | declared <;> rfl

theorem missing_of_integrationOf (h : integrationOf name = none) :
    kind.missing host name = none := by
  refine missing_of_lacking ?_
  rw [Host.lacking, h]
  rfl

theorem integrationOf_of_missing {capability : Capability}
    (h : kind.missing host name = some capability) : integrationOf name = some capability := by
  obtain ⟨declared, -, lacking⟩ := Option.bind_eq_some_iff.1 h
  exact (Option.filter_eq_some_iff.1 lacking).1

/-- The keywords that are no conditions need no integration, and the offset of blocks needs none. -/
theorem integrationOf_otherKeywords (kind : RuleKind) :
    ∀ name ∈ Keyword.blockOffset.name :: Keyword.onJoin.name :: Keyword.phase.name ::
      kind.otherKeywords, integrationOf name = none := by
  cases kind <;> decide +kernel

/-! ## The document without them -/

/-- What a document is read as, and what is read without the members whose integration is
missing. -/
structure Reduced (kind : RuleKind) (host : Host) (d : Document) (m m' : AttributeMap) : Prop where
  whole : kind.declarations.attributes d.json = .ok m
  part : kind.declarations.attributes (kind.supported host d).json = .ok m'
  values : ∀ name, m'.values.get? name =
    if (kind.missing host name).isNone then m.values.get? name else none

theorem exists_reduced (host : Host) (h : kind.declarations.attributes d.json = .ok m) :
    ∃ m', Reduced kind host d m m' := by
  obtain ⟨m', hm', values⟩ := DeclarationSet.attributes_restrict h fun name =>
    (kind.missing host name).isNone
  exact ⟨m', h, hm', values⟩

theorem Reduced.values_of_not_missing (reduced : Reduced kind host d m m')
    (h : kind.missing host name = none) : m'.values.get? name = m.values.get? name := by
  rw [reduced.values, h]
  rfl

theorem Reduced.conditions_of_not_missing (reduced : Reduced kind host d m m')
    (h : kind.missing host name = none) :
    (kind.conditions m').values.get? name = (kind.conditions m).values.get? name := by
  rw [values_conditions, values_conditions, reduced.values_of_not_missing h]

/-- The warning that a member of a document costs, if it stands in it and its integration is
missing. -/
def warning (kind : RuleKind) (host : Host) (d : Document) (name : String) : Option Report :=
  if d.contains name then
    (kind.missing host name).map fun capability => ⟨.warning, .missingCapability capability name⟩
  else none

theorem warning_eq_some_iff {report : Report} :
    kind.warning host d name = some report ↔ name ∈ d.keys ∧
      ∃ capability, kind.missing host name = some capability ∧
        ⟨.warning, .missingCapability capability name⟩ = report := by
  rw [warning, Dict.mem_keys, Dict.contains]
  split
  · rename_i present
    rw [Option.map_eq_some_iff, and_iff_right present]
  · rename_i absent
    constructor
    · intro h
      cases h
    · rintro ⟨present, -⟩
      exact absurd present absent

theorem warning_aboutIntegration {report : Report} (h : kind.warning host d name = some report) :
    report.aboutIntegration = true := by
  obtain ⟨-, _, -, rfl⟩ := warning_eq_some_iff.1 h
  rfl

section Clauses

variable {c : Clause}

/-- A clause whose integration is there gives both documents the same, and no warning. -/
theorem Reduced.check_of_supported (reduced : Reduced kind host d m m')
    (hc : c ∈ Condition.catalogue) (lacking : host.lacking c.keyword = none) :
    c.check host (kind.conditions m') = c.check host (kind.conditions m) := by
  refine Clause.check_congr (reduced.conditions_of_not_missing (missing_of_lacking lacking)) ?_
  intro key hk
  obtain ⟨-, rfl⟩ := Condition.companion_of_mem_catalogue hc hk
  exact reduced.conditions_of_not_missing <|
    missing_of_integrationOf (integrationOf_otherKeywords kind _ List.mem_cons_self)

/-- A clause whose integration is missing finds nothing in the reduced document. -/
theorem Reduced.check_reduced_of_lacking (reduced : Reduced kind host d m m')
    {capability : Capability} (lacking : host.lacking c.keyword = some capability) :
    c.check host (kind.conditions m') = pure none := by
  refine Clause.check_of_absent (values_conditions_none ?_)
  rcases hd : kind.declarations.get? c.keyword with _ | declared
  · exact DeclarationSet.undeclared_attributes reduced.part hd
  · rw [reduced.values, missing, hd, Option.bind_some, lacking]
    rfl

/-- In the whole document it gives a warning if its keyword stands there, and never a check. -/
theorem Reduced.check_of_lacking (reduced : Reduced kind host d m m')
    (hc : c ∈ Condition.catalogue) {capability : Capability}
    (lacking : host.lacking c.keyword = some capability) :
    c.check host (kind.conditions m) = ⟨(kind.warning host d c.keyword).toList, none⟩ := by
  rcases hd : kind.declarations.get? c.keyword with _ | declared
  · have absent := DeclarationSet.undeclared_attributes reduced.whole hd
    rw [Clause.check_of_absent (values_conditions_none absent), warning, missing, hd,
      Option.bind_none, Option.map_none, ite_self]
    rfl
  · rcases present : d.contains c.keyword with _ | _
    · have absent := DeclarationSet.absent_attributes reduced.whole
        (Option.isNone_iff_eq_none.1 (Option.isSome_eq_false_iff.1 present))
      rw [Clause.check_of_absent (values_conditions_none absent), warning, present]
      rfl
    -- the one keyword that spawn rules keep from conditions needs no integration
    · have apart : c.keyword ≠ Keyword.heldItem.name := by
        intro held
        rw [held] at lacking
        cases lacking
      have condition : c.keyword ∈ kind.conditionKeywords :=
        (keyword_mem_conditionKeywords hc).2 ⟨by rw [hd]; rfl, fun detour => apart detour.2⟩
      obtain ⟨values, input, found, taken⟩ := taken_of_condition reduced.whole hc condition present
      have needed : c.lacking host = some capability :=
        (Condition.lacking_of_mem_catalogue hc host).trans lacking
      rw [Clause.check_of_lacking needed found taken, warning, present, missing, hd,
        Option.bind_some, lacking]
      rfl

/-- Clause by clause the two documents give the same check and the same reports, the warning apart
that the keyword costs. -/
theorem Reduced.check (reduced : Reduced kind host d m m') (hc : c ∈ Condition.catalogue) :
    (c.check host (kind.conditions m)).result = (c.check host (kind.conditions m')).result ∧
    (c.check host (kind.conditions m)).reports.filter (!·.aboutIntegration) =
      (c.check host (kind.conditions m')).reports ∧
    (c.check host (kind.conditions m)).reports.filter Report.aboutIntegration =
      (kind.warning host d c.keyword).toList := by
  rcases lacking : host.lacking c.keyword with _ | capability
  · have ofValue := Condition.only_check_of_supported hc
      ((Condition.lacking_of_mem_catalogue hc host).trans lacking) (kind.conditions m)
    obtain ⟨none, all⟩ := ofValue.filter_aboutIntegration
    rw [reduced.check_of_supported hc lacking, none, all, warning, missing_of_lacking lacking]
    refine ⟨rfl, rfl, ?_⟩
    split <;> rfl
  · rw [reduced.check_of_lacking hc lacking, reduced.check_reduced_of_lacking lacking]
    rcases hw : kind.warning host d c.keyword with _ | report
    · exact ⟨rfl, rfl, rfl⟩
    · simp [warning_aboutIntegration hw]

end Clauses

/-! ## Conditions -/

theorem Reduced.result_checks (reduced : Reduced kind host d m m') :
    (Condition.checks host (kind.conditions m)).result =
      (Condition.checks host (kind.conditions m')).result := by
  rw [Condition.checks, Condition.checks, Condition.result_checksBy, Condition.result_checksBy]
  exact List.filterMap_congr fun c hc => (reduced.check hc).1

theorem Reduced.other_reports_checks (reduced : Reduced kind host d m m') :
    (Condition.checks host (kind.conditions m)).reports.filter (!·.aboutIntegration) =
      (Condition.checks host (kind.conditions m')).reports := by
  rw [Condition.checks, Condition.checks, Condition.reports_checksBy, Condition.reports_checksBy,
    List.filter_flatMap]
  exact List.flatMap_congr fun c hc => (reduced.check hc).2.1

/-- The warnings come in the order of the clauses. -/
theorem Reduced.warnings_checks (reduced : Reduced kind host d m m') :
    (Condition.checks host (kind.conditions m)).reports.filter Report.aboutIntegration =
      (Condition.catalogue.map Clause.keyword).filterMap (kind.warning host d) := by
  rw [Condition.checks, Condition.reports_checksBy, List.filter_flatMap, List.filterMap_map,
    List.filterMap_eq_flatMap_toList]
  exact List.flatMap_congr fun c hc => (reduced.check hc).2.2

/-- No warning is told of two keywords. -/
theorem warning_injective {a b : String} {report : Report}
    (ha : kind.warning host d a = some report) (hb : kind.warning host d b = some report) :
    a = b := by
  obtain ⟨-, _, -, rfl⟩ := warning_eq_some_iff.1 ha
  obtain ⟨-, _, -, same⟩ := warning_eq_some_iff.1 hb
  cases same
  rfl

/-- Every warning is about a member of the document that some clause has for its keyword. -/
theorem mem_of_warning {report : Report} (h : kind.warning host d name = some report) :
    name ∈ d.keys ∧ name ∈ Condition.catalogue.map Clause.keyword := by
  obtain ⟨present, capability, missing, -⟩ := warning_eq_some_iff.1 h
  exact ⟨present, Condition.integrationOf_mem_catalogue (integrationOf_of_missing missing)⟩

/-- The warnings in the order of the clauses are those in the order of the document. -/
theorem warnings_perm (kind : RuleKind) (host : Host) (d : Document) :
    ((Condition.catalogue.map Clause.keyword).filterMap (kind.warning host d)).Perm
      (kind.integrationReports host d) := by
  have members : kind.integrationReports host d = d.keys.filterMap (kind.warning host d) := by
    refine List.filterMap_congr fun name hn => ?_
    rw [warning, Dict.contains, if_pos (Dict.mem_keys.1 hn)]
  have nodup {names : List String} (h : names.Nodup) :
      (names.filterMap (kind.warning host d)).Nodup :=
    h.filterMap fun _ _ _ => warning_injective
  -- neither list names a keyword twice, so only their members are compared
  rw [members, List.perm_ext_iff_of_nodup (nodup Condition.nodup_keywords)
    (nodup (nodup_of_increasing d.increasing_keys))]
  intro report
  rw [List.mem_filterMap, List.mem_filterMap]
  constructor
  · rintro ⟨name, -, hw⟩
    exact ⟨name, (mem_of_warning hw).1, hw⟩
  · rintro ⟨name, -, hw⟩
    exact ⟨name, (mem_of_warning hw).2, hw⟩

/-! ## The whole document -/

/-- What is no condition is read alike in both documents. -/
theorem Reduced.others (reduced : Reduced kind host d m m') :
    ∀ name ∈ Keyword.onJoin.name :: Keyword.phase.name :: kind.otherKeywords,
      m.values.get? name = m'.values.get? name := by
  intro name hn
  refine (reduced.values_of_not_missing ?_).symm
  exact missing_of_integrationOf
    (integrationOf_otherKeywords kind name (List.mem_cons_of_mem _ hn))

theorem stray_supported (kind : RuleKind) (host : Host) (d : Document) :
    kind.stray (kind.supported host d) = kind.stray d := by
  have same {name : String} (h : kind.missing host name = none) :
      (kind.supported host d).get? name = d.get? name := by
    rw [supported, Dict.get?_restrict, h]
    rfl
  have block := same (missing_of_integrationOf (by decide : integrationOf Keyword.block.name = none))
  have offset := same (missing_of_integrationOf
    (integrationOf_otherKeywords kind Keyword.blockOffset.name List.mem_cons_self))
  refine eq_of_increasing (increasing_stray _ _) (increasing_stray _ _) fun name => ?_
  rw [mem_stray, mem_stray, block]
  -- what can be stray needs no integration, so it stands in both documents or in neither
  refine and_congr_left ?_
  rintro (undeclared | ⟨rfl, -⟩)
  · rw [same (by rw [missing, undeclared, Option.bind_none])]
  · rw [offset]

/-- Behind the conditions nothing is reported of integrations. -/
theorem not_aboutIntegration_behind (kind : RuleKind) (host : Host) (d : Document)
    (m : AttributeMap) : ∀ report ∈ kind.actionReports host m ++ kind.strayReports d,
      report.aboutIntegration = false := by
  intro report hm
  rcases List.mem_append.1 hm with hm | hm
  · cases kind with
    | spawn => exact (Action.only_ofAttributes host.registry m report hm).not_aboutIntegration
    | experience => cases hm
  · unfold strayReports at hm
    split at hm
    · cases hm
    · rw [List.mem_singleton] at hm
      subst hm
      rfl

theorem Reduced.warnings (reduced : Reduced kind host d m m') (calm : kind.Calm host m) :
    (kind.ofDocument host d.json).reports.filter Report.aboutIntegration =
      (Condition.catalogue.map Clause.keyword).filterMap (kind.warning host d) := by
  have behind : (kind.actionReports host m ++ kind.strayReports d).filter
      Report.aboutIntegration = [] :=
    List.filter_eq_nil_iff.2 fun report hm =>
      Bool.eq_false_iff.1 (not_aboutIntegration_behind kind host d m report hm)
  rw [reports_ofDocument reduced.whole calm, ownReports, List.append_assoc, List.filter_append,
    behind, List.append_nil, reduced.warnings_checks]

/-- What is left out is no equipment. -/
theorem Reduced.calm_iff (reduced : Reduced kind host d m m') :
    kind.Calm host m ↔ kind.Calm host m' :=
  calm_congr fun name hn => reduced.others name (by simp [hn])

theorem Reduced.other_reports (reduced : Reduced kind host d m m') (calm : kind.Calm host m) :
    (kind.ofDocument host d.json).reports.filter (!·.aboutIntegration) =
      (kind.ofDocument host (kind.supported host d).json).reports := by
  have behind : (kind.actionReports host m ++ kind.strayReports d).filter
      (!·.aboutIntegration) = kind.actionReports host m ++ kind.strayReports d :=
    List.filter_eq_self.2 fun report hm => by
      rw [not_aboutIntegration_behind kind host d m report hm, Bool.not_false]
  have actions : kind.actionReports host m = kind.actionReports host m' :=
    actionReports_congr fun name hn => reduced.others name (by simp [hn])
  have stray : kind.strayReports (kind.supported host d) = kind.strayReports d := by
    rw [strayReports, strayReports, stray_supported]
  rw [reports_ofDocument reduced.whole calm, reports_ofDocument reduced.part
    (reduced.calm_iff.1 calm), ownReports, ownReports, List.append_assoc, List.append_assoc,
    List.filter_append, behind, stray, reduced.other_reports_checks, actions]

/-- No check of a rule asks an integration that is missing. -/
theorem lacking_of_check {check : Check}
    (h : check ∈ (Condition.checks host m).result) : host.lacking check.keyword = none := by
  rw [Condition.checks, Condition.result_checksBy] at h
  obtain ⟨c, hc, built⟩ := List.mem_filterMap.1 h
  rw [Clause.keyword_of_check built, ← Condition.lacking_of_mem_catalogue hc]
  rcases lacking : c.lacking host with _ | capability
  · rfl
  · rw [Clause.result_check_of_lacking lacking] at built
    cases built

theorem ofDocument_withIntegrations (kind : RuleKind) (host : Host) {other : Integrations}
    (agree : host.integrations.Agree other) (document : Json) :
    kind.ofDocument (host.withIntegrations other) document = kind.ofDocument host document := by
  have built (m : AttributeMap) :
      kind.ofAttributes (host.withIntegrations other) m = kind.ofAttributes host m := by
    cases kind with
    | spawn =>
      rw [ofAttributes, ofAttributes, spawn_ofAttributes, spawn_ofAttributes,
        Condition.checks_withIntegrations host agree]
      rfl
    | experience =>
      rw [ofAttributes, ofAttributes, ExperienceRule.ofAttributes, ExperienceRule.ofAttributes,
        Condition.compile_eq, Condition.compile_eq, Condition.checks_withIntegrations host agree]
  rw [ofDocument_eq, ofDocument_eq]
  rcases read : kind.declarations.attributes document with p | m
  · rw [ofDocumentBy_of_refused read, ofDocumentBy_of_refused read]
  · refine Reported.ext ?_ ?_
    · rw [(ofDocumentBy_of_attributes read).1, (ofDocumentBy_of_attributes read).1, built]
    · rw [(ofDocumentBy_of_attributes read).2, (ofDocumentBy_of_attributes read).2, built]

/-- A document that gives a rule loses nothing by missing integrations but the conditions that need
them. Each of its keywords that does costs one warning, which names it and the integration, and gives
no check. The document without these keywords gives the very same rule, and all other reports in
their order. And the rule and the reports stay what they are whatever is put in the place of the
answers of the missing integrations. -/
theorem degrades_softly (kind : RuleKind) (host : Host) {d : Document} {r : kind.Rule}
    (h : (kind.ofDocument host d.json).result = .ok (some r)) :
    ((kind.ofDocument host d.json).reports.filter Report.aboutIntegration).Perm
      (kind.integrationReports host d) ∧
    (∀ check ∈ kind.checks r, host.lacking check.keyword = none) ∧
    (kind.ofDocument host (kind.supported host d).json).result = .ok (some r) ∧
    (kind.ofDocument host d.json).reports.filter (!·.aboutIntegration) =
      (kind.ofDocument host (kind.supported host d).json).reports ∧
    ∀ other, host.integrations.Agree other →
      kind.ofDocument (host.withIntegrations other) d.json = kind.ofDocument host d.json := by
  obtain ⟨m, hm, calm, rfl⟩ := ofDocument_eq_some_iff.1 h
  obtain ⟨m', reduced⟩ := exists_reduced host hm
  refine ⟨?_, fun check hc => ?_, ?_, reduced.other_reports calm,
    fun other agree => ofDocument_withIntegrations kind host agree d.json⟩
  · rw [reduced.warnings calm]
    exact warnings_perm kind host d
  · rw [checks_ruleOf] at hc
    exact lacking_of_check hc
  · refine ofDocument_eq_some_iff.2 ⟨m', reduced.part, reduced.calm_iff.1 calm, ?_⟩
    exact (ruleOf_of_checks reduced.result_checks reduced.others).symm

/-- What the document below costs where no integration is there. -/
def solsticeWarnings : List Report :=
  [⟨.warning, .missingCapability .baubles "ring"⟩,
    ⟨.warning, .missingCapability .enigmaScript "state"⟩,
    ⟨.warning, .missingCapability .seasons "summer"⟩]

/-- Darkness in summer, a scripted state, a ring, and a keyword of experience rules. -/
def solsticeDocument : Document :=
  Dict.ofPairs [(Keyword.maxLight.name, .number (.integer 7)), (Keyword.summer.name, .bool true),
    (Keyword.state.name, .string "no value"), (Keyword.ring.name, .string "minecraft:stick"),
    (Keyword.playerState.name, .string "quest=done")]

/-- No integration is there, but in the place of some of them something answers. -/
def strayAnswers : Integrations :=
  { Integrations.none with season := fun _ => some .winter, inCity := fun _ => true }

theorem degrades_softly_solstice :
    ∃ r, (spawn.ofDocument .bare solsticeDocument.json).result = .ok (some r) ∧
      ((spawn.ofDocument .bare solsticeDocument.json).reports.filter Report.aboutIntegration).Perm
        solsticeWarnings ∧
      (spawn.supported .bare solsticeDocument).keys = ["maxlight", "pstate"] ∧
      (spawn.ofDocument .bare (spawn.supported .bare solsticeDocument).json).result = .ok (some r) ∧
      (spawn.ofDocument (Host.bare.withIntegrations strayAnswers)
        solsticeDocument.json).result = .ok (some r) := by
  have loads : (spawn.rule? .bare solsticeDocument.json).isSome = true ∧
      (spawn.supported .bare solsticeDocument).keys = ["maxlight", "pstate"] ∧
      spawn.integrationReports .bare solsticeDocument = solsticeWarnings := by
    decide +kernel
  obtain ⟨r, h⟩ := exists_rule loads.1
  have agree : Host.bare.integrations.Agree strayAnswers := by
    constructor <;> first | rfl | nofun
  obtain ⟨warnings, -, same, -, answers⟩ := degrades_softly spawn .bare h
  rw [loads.2.2] at warnings
  refine ⟨r, h, warnings, loads.2.1, same, ?_⟩
  rw [answers _ agree]
  exact h

end RuleKind

end EventRules
