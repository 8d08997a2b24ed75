/-
Both kinds of rules under one name. A kind says which keywords it declares, which attributes its
conditions are made of and which keywords it takes besides; a rule of either kind is then the same
three steps: the conditions, what the kind makes of the other keywords, and the report on what is
left. No step takes what a later one needs, so a rule can be read off the attributes of its document,
unless some equipment of a spawn rule is at fault, and what is left is known from them as well.
-/
import EventRules.Rule.Load
import EventRules.Proofs.Action.Reading
import EventRules.Proofs.Attribute.Reading
import EventRules.Proofs.Condition.Compile

namespace EventRules

/-! ## The two kinds -/

namespace RuleKind

/-- The rules of a kind. -/
def Rule : RuleKind → Type
  | .spawn => SpawnRule
  | .experience => ExperienceRule

/-- The keywords of a kind. -/
def declarations : RuleKind → DeclarationSet
  | .spawn => SpawnRule.declarations
  | .experience => ExperienceRule.declarations

/-- The rule of a document by the keywords of its kind. -/
def ofDocument (kind : RuleKind) (host : Host) (document : Json) :
    Reported (Except Fault (Option kind.Rule)) :=
  match kind with
  | .spawn => SpawnRule.ofDocument SpawnRule.declarations host document
  | .experience => .ok <$> ExperienceRule.ofDocument ExperienceRule.declarations host document

/-- The rule of a document by any keywords. -/
def ofDocumentBy (kind : RuleKind) (s : DeclarationSet) (host : Host) (document : Json) :
    Reported (Except Fault (Option kind.Rule)) :=
  match kind with
  | .spawn => SpawnRule.ofDocument s host document
  | .experience => .ok <$> ExperienceRule.ofDocument s host document

/-- The rule that loading gives, if it gives one. -/
def rule? (kind : RuleKind) (host : Host) (document : Json) : Option kind.Rule :=
  (kind.ofDocument host document).result.toOption.join

/-- The checks of a rule. -/
def checks : (kind : RuleKind) → kind.Rule → List Check
  | .spawn, r => SpawnRule.checks r
  | .experience, r => ExperienceRule.checks r

/-- Whether a rule matches an event. -/
def isMatch : (kind : RuleKind) → kind.Rule → Event → Generator → Except Fault Bool × Generator
  | .spawn => SpawnRule.isMatch
  | .experience => ExperienceRule.isMatch

/-- Like `isMatch`, and tells how far the evaluation came. -/
def report : (kind : RuleKind) → kind.Rule → Event → Generator →
    Except Fault MatchReport × Generator
  | .spawn => SpawnRule.report
  | .experience => ExperienceRule.report

theorem isMatch_eq (kind : RuleKind) (r : kind.Rule) :
    kind.isMatch r = Check.allPass (kind.checks r) := by
  cases kind <;> rfl

theorem report_eq (kind : RuleKind) (r : kind.Rule) :
    kind.report r = Check.report (kind.checks r) := by
  cases kind <;> rfl

theorem rule?_eq_some_iff {kind : RuleKind} {host : Host} {document : Json} {r : kind.Rule} :
    kind.rule? host document = some r ↔ (kind.ofDocument host document).result = .ok (some r) := by
  unfold rule?
  rcases (kind.ofDocument host document).result with fault | _ | r'
  · exact iff_of_false nofun nofun
  · exact iff_of_false nofun nofun
  · exact ⟨fun h => congrArg _ h, Except.ok.inj⟩

/-- What is found of the rule of a document is found of the rule that loading gives. -/
theorem exists_rule_of_map {kind : RuleKind} {host : Host} {document : Json} {α : Type}
    {f : kind.Rule → α} {a : α} (h : (kind.rule? host document).map f = some a) :
    ∃ r, (kind.ofDocument host document).result = .ok (some r) ∧ f r = a := by
  obtain ⟨r, found, same⟩ := Option.map_eq_some_iff.1 h
  exact ⟨r, rule?_eq_some_iff.1 found, same⟩

theorem exists_rule {kind : RuleKind} {host : Host} {document : Json}
    (h : (kind.rule? host document).isSome = true) :
    ∃ r, (kind.ofDocument host document).result = .ok (some r) := by
  obtain ⟨r, found⟩ := Option.isSome_iff_exists.1 h
  exact ⟨r, rule?_eq_some_iff.1 found⟩

/-! ## Rules of attributes -/

/-- The phases among the attributes of a document. -/
def phasesOf (m : AttributeMap) : Phases := Phases.ofList (m.getAll Keyword.phase)

/-- The rule of a document's attributes. -/
def ofAttributes (kind : RuleKind) (host : Host) (m : AttributeMap) :
    Reported (Except Fault kind.Rule) :=
  match kind with
  | .spawn => SpawnRule.ofAttributes host m (phasesOf m)
  | .experience => .ok <$> ExperienceRule.ofAttributes host m (phasesOf m)

/-- The attributes that conditions are made of. -/
def conditions : RuleKind → AttributeMap → AttributeMap
  | .spawn, m => m.drop Keyword.heldItem.name
  | .experience, m => m

/-- The rule that attributes make, if none of them is at fault. -/
def ruleOf : (kind : RuleKind) → Host → AttributeMap → kind.Rule
  | .spawn, host, m => {
      checks := (Condition.checks host (conditions .spawn m)).result
      actions := (Action.ofAttributes host.registry m).result
      phases := phasesOf m
      onJoin := (m.get? Keyword.onJoin : Option Bool).getD false
      result := (m.get? Keyword.result : Option String).map Outcome.ofKeyword
      continues := (m.get? Keyword.continues : Option Bool).getD false : SpawnRule }
  | .experience, host, m => {
      checks := (Condition.checks host (conditions .experience m)).result
      phases := phasesOf m
      result := ((m.get? Keyword.result : Option String).map Outcome.ofKeyword).getD .default
      setXp := m.get? Keyword.setXp
      multXp := (m.get? Keyword.multXp : Option Single).getD .one
      addXp := (m.get? Keyword.addXp : Option Single).getD (.zero false) : ExperienceRule }

/-- No attribute is at fault: only equipment can be. -/
def Calm : RuleKind → Host → AttributeMap → Prop
  | .spawn, host, m => Action.Calm host.registry m
  | .experience, _, _ => True

/-- The keywords that a kind takes besides those of conditions. -/
def otherKeywords : RuleKind → List String
  | .spawn => Action.keywords ++ [Keyword.result.name, Keyword.continues.name]
  | .experience =>
    [Keyword.result.name, Keyword.setXp.name, Keyword.addXp.name, Keyword.multXp.name]

/-- What is reported of the actions. -/
def actionReports : RuleKind → Host → AttributeMap → List Report
  | .spawn, host, m => (Action.ofAttributes host.registry m).reports
  | .experience, _, _ => []

/-- The attributes that nothing takes. -/
def leftovers (kind : RuleKind) (m : AttributeMap) : AttributeMap :=
  m.dropAll (Condition.consumed (kind.conditions m) ++ kind.otherKeywords)

variable {kind : RuleKind} {host : Host} {m : AttributeMap}

theorem checks_ruleOf :
    kind.checks (kind.ruleOf host m) = (Condition.checks host (kind.conditions m)).result := by
  cases kind <;> rfl

/-! ## Attributes of conditions -/

theorem values_conditions (kind : RuleKind) (m : AttributeMap) (name : String) :
    (kind.conditions m).values.get? name =
      if kind = .spawn ∧ name = Keyword.heldItem.name then none else m.values.get? name := by
  cases kind with
  | spawn => simp only [conditions, AttributeMap.values_drop, true_and]
  | experience => rfl

theorem values_conditions_none {name : String} (h : m.values.get? name = none) :
    (kind.conditions m).values.get? name = none := by
  rw [values_conditions, h, ite_self]

/-! ## What the steps leave to each other -/

/-- Conditions take nothing that a kind takes besides, but for the held item. -/
theorem not_mem_consumed (kind : RuleKind) {name : String} (h : name ∈ kind.otherKeywords)
    (other : name ≠ Keyword.heldItem.name) (m : AttributeMap) :
    name ∉ Condition.consumed m := by
  have apart : ∀ kind : RuleKind, ∀ name ∈ kind.otherKeywords, name ≠ Keyword.heldItem.name →
      name ∉ Condition.catalogue.flatMap Clause.names ++
        [Keyword.onJoin.name, Keyword.phase.name] := by
    intro kind
    cases kind <;> decide +kernel
  exact fun taken => apart kind name h other (Condition.mem_names_of_consumed taken)

/-- The attributes behind the conditions of a spawn rule, with the held item filed again. -/
def refiled (m : AttributeMap) : AttributeMap :=
  let rest := (conditions .spawn m).dropAll (Condition.consumed (conditions .spawn m))
  match (m.takeAll Keyword.heldItem).1 with
  | some values => rest.fileAll Keyword.heldItem.name values
  | none => rest

theorem unknown_refiled : (refiled m).unknown = m.unknown := by
  unfold refiled
  dsimp only
  split
  · exact AttributeMap.unknown_dropAll _
  · exact AttributeMap.unknown_dropAll _

theorem values_refiled {name : String} (other : name ≠ Keyword.heldItem.name) :
    (refiled m).values.get? name =
      if name ∈ Condition.consumed (conditions .spawn m) then none else m.values.get? name := by
  have behind : ((conditions .spawn m).dropAll
      (Condition.consumed (conditions .spawn m))).values.get? name =
      if name ∈ Condition.consumed (conditions .spawn m) then none else m.values.get? name := by
    rw [AttributeMap.values_dropAll, conditions, AttributeMap.values_drop, if_neg other]
  unfold refiled
  dsimp only
  split
  · exact (Dict.get?_insert ..).trans ((if_neg (Ne.symm other)).trans behind)
  · exact behind

/-- What is filed again is what can be read of the values that were there. -/
theorem filed_refiled (m : AttributeMap) :
    (refiled m).filed Keyword.heldItem.name = m.getAll Keyword.heldItem := by
  have absent (names : List String) :
      ((conditions .spawn m).dropAll names).values.get? Keyword.heldItem.name = none := by
    rw [AttributeMap.values_dropAll, conditions, AttributeMap.values_drop, if_pos rfl, ite_self]
  unfold refiled AttributeMap.takeAll AttributeMap.getAll AttributeMap.filed
  rcases m.values.get? Keyword.heldItem.name with _ | values
  · exact congrArg (Option.getD · []) (absent _)
  · exact congrArg (Option.getD · []) ((Dict.get?_insert ..).trans (if_pos rfl))

theorem getAll_refiled (m : AttributeMap) :
    (refiled m).getAll Keyword.heldItem = m.getAll Keyword.heldItem := by
  have again (v : Json) : (ValueType.json? v).bind ValueType.json? = ValueType.json? v := by
    unfold ValueType.json?
    cases null : v.isNull <;> simp [null]
  rw [AttributeMap.getAll, filed_refiled, AttributeMap.getAll]
  exact List.filterMap_filterMap.trans (List.filterMap_congr fun v _ => again v)

/-- Actions find their keywords as they were filed. -/
theorem agree_refiled (m : AttributeMap) : Action.Agree (refiled m) m := by
  have there {name : String} (hn : name ∈ Action.keywords) (other : name ≠ Keyword.heldItem.name) :
      (refiled m).values.get? name = m.values.get? name := by
    have taken := not_mem_consumed .spawn (List.mem_append_left _ hn) other
    rw [values_refiled other, if_neg (taken _)]
  refine ⟨fun name hn => ?_, fun e he => ?_, fun name hn => ?_⟩
  · exact there (List.mem_append_left _ (List.mem_append_left _ hn))
      ((by decide : ∀ name ∈ Action.bodyKeywords, name ≠ Keyword.heldItem.name) name hn)
  · by_cases held : e.1.name = Keyword.heldItem.name
    · have same : e.1 = Keyword.heldItem := congrArg Key.mk held
      rw [same]
      exact getAll_refiled m
    · exact AttributeMap.getAll_congr (there (List.mem_append_left _ <|
        List.mem_append_right _ (List.mem_map.2 ⟨e, he, rfl⟩)) held)
  · exact there (List.mem_append_right _ hn)
      ((by decide : ∀ name ∈ Action.mannerKeywords, name ≠ Keyword.heldItem.name) name hn)

/-- A spawn rule leaves what nothing takes: the held item is taken as equipment. -/
theorem dropAll_refiled (m : AttributeMap) :
    (refiled m).dropAll spawn.otherKeywords = spawn.leftovers m := by
  refine AttributeMap.ext_values (fun name => ?_) ?_
  · rw [leftovers, AttributeMap.values_dropAll, AttributeMap.values_dropAll]
    by_cases other : name ∈ spawn.otherKeywords
    · rw [if_pos other, if_pos (List.mem_append_right _ other)]
    · have held : name ≠ Keyword.heldItem.name := by
        rintro rfl
        exact other (by decide)
      rw [if_neg other, values_refiled held]
      simp only [List.mem_append, other, or_false]
  · rw [leftovers, AttributeMap.unknown_dropAll, AttributeMap.unknown_dropAll, unknown_refiled]

/-! ## The three steps -/

/-- What is reported of attributes that are not at fault. -/
def reportsOf (kind : RuleKind) (host : Host) (m : AttributeMap) : List Report :=
  (Condition.checks host (kind.conditions m)).reports ++ (kind.actionReports host m ++
    (reportLeftovers kind (kind.leftovers m)).reports)

theorem spawn_ofAttributes (host : Host) (m : AttributeMap) :
    SpawnRule.ofAttributes host m (phasesOf m) =
      (⟨(Condition.checks host (conditions .spawn m)).reports, ()⟩ : Reported Unit) >>= fun _ =>
        Action.compile host.registry (refiled m) >>= fun made =>
          match made with
          | .error fault => pure (.error fault)
          | .ok (actions, rest) => do
            let (word, rest) := rest.take Keyword.result
            let (continues, rest) := rest.take Keyword.continues
            reportLeftovers .spawn rest
            return .ok {
              checks := (Condition.checks host (conditions .spawn m)).result
              actions := actions
              phases := phasesOf m
              onJoin := (m.get? Keyword.onJoin : Option Bool).getD false
              result := word.map Outcome.ofKeyword
              continues := continues.getD false } := by
  unfold SpawnRule.ofAttributes
  dsimp only [AttributeMap.takeAll]
  rw [show Condition.compile host (m.drop Keyword.heldItem.name) = _ from
    Condition.compile_eq host (conditions .spawn m)]
  rfl

theorem get?_behind_actions {t : ValueType} {key : Key t} {names : List String}
    (there : key.name ∉ names) (listed : key.name ∈ spawn.otherKeywords)
    (other : key.name ≠ Keyword.heldItem.name) :
    ((refiled m).dropAll names).get? key = m.get? key := by
  refine AttributeMap.get?_congr ?_
  rw [AttributeMap.values_dropAll_of_not_mem _ there, values_refiled other,
    if_neg (not_mem_consumed .spawn listed other _)]

theorem experience_get? {t : ValueType} (m : AttributeMap) (key : Key t)
    (listed : key.name ∈ experience.otherKeywords) (names : List String) (there : key.name ∉ names) :
    (m.dropAll (Condition.consumed m ++ names)).get? key = m.get? key := by
  have other : ∀ name ∈ experience.otherKeywords, name ≠ Keyword.heldItem.name := by decide
  refine m.get?_dropAll fun taken => ?_
  rcases List.mem_append.1 taken with h | h
  · exact not_mem_consumed .experience listed (other _ listed) m h
  · exact there h

/-- Attributes that are not at fault give their rule. -/
theorem ofAttributes_of_calm (calm : kind.Calm host m) :
    kind.ofAttributes host m = ⟨kind.reportsOf host m, .ok (kind.ruleOf host m)⟩ := by
  cases kind with
  | spawn =>
    have compiled := Action.compile_of_calm ((agree_refiled m).symm.calm calm)
    rw [(agree_refiled m).ofAttributes] at compiled
    have word : ((refiled m).dropAll Action.keywords).get? Keyword.result =
        m.get? Keyword.result :=
      get?_behind_actions (by decide) (by decide) (by decide)
    have continues : (((refiled m).dropAll Action.keywords).dropAll [Keyword.result.name]).get?
        Keyword.continues = m.get? Keyword.continues := by
      rw [← AttributeMap.dropAll_append]
      exact get?_behind_actions (by decide) (by decide) (by decide)
    have left : (((refiled m).dropAll Action.keywords).dropAll [Keyword.result.name]).dropAll
        [Keyword.continues.name] = spawn.leftovers m := by
      rw [← AttributeMap.dropAll_append, ← AttributeMap.dropAll_append, ← dropAll_refiled]
      rfl
    rw [ofAttributes, spawn_ofAttributes, compiled]
    refine Reported.ext ?_ ?_
    · simp only [Reported.reports_bind, Reported.reports_pure, AttributeMap.take_eq, left,
        List.append_nil]
      rfl
    · simp only [Reported.result_bind, Reported.result_pure, AttributeMap.take_eq, word, continues]
      rfl
  | experience =>
    have word := experience_get? m Keyword.result (by decide) [] (by decide)
    have setXp := experience_get? m Keyword.setXp (by decide) [Keyword.result.name] (by decide)
    have addXp := experience_get? m Keyword.addXp (by decide)
      [Keyword.result.name, Keyword.setXp.name] (by decide)
    have multXp := experience_get? m Keyword.multXp (by decide)
      [Keyword.result.name, Keyword.setXp.name, Keyword.addXp.name] (by decide)
    rw [List.append_nil] at word
    rw [ofAttributes, ExperienceRule.ofAttributes, Condition.compile_eq]
    refine Reported.ext ?_ ?_
    · refine (Reported.reports_map _).trans ?_
      simp only [Reported.reports_bind, Reported.reports_pure, AttributeMap.take_eq,
        ← AttributeMap.dropAll_append, List.append_assoc, List.append_nil]
      rfl
    · refine congrArg Except.ok ?_
      simp only [Reported.result_bind, Reported.result_pure, AttributeMap.take_eq,
        ← AttributeMap.dropAll_append, List.cons_append, List.nil_append, word, setXp, addXp,
        multXp]
      rfl

/-- Attributes that are at fault give no rule. -/
theorem ofAttributes_of_not_calm (fault : ¬kind.Calm host m) :
    (kind.ofAttributes host m).result = .error .endlessWeights := by
  cases kind with
  | spawn =>
    have compiled := Action.compile_of_not_calm (mt (agree_refiled m).calm fault)
    rw [ofAttributes, spawn_ofAttributes]
    simp only [Reported.result_bind, compiled, Reported.result_pure]
    rfl
  | experience => exact absurd trivial fault

theorem result_ofAttributes_iff {r : kind.Rule} :
    (kind.ofAttributes host m).result = .ok r ↔ kind.Calm host m ∧ kind.ruleOf host m = r := by
  by_cases calm : kind.Calm host m
  · rw [ofAttributes_of_calm calm]
    exact ⟨fun h => ⟨calm, Except.ok.inj h⟩, fun h => congrArg _ h.2⟩
  · rw [ofAttributes_of_not_calm calm]
    exact iff_of_false nofun fun h => calm h.1

/-! ## Documents -/

variable {s : DeclarationSet} {document : Json}

theorem documentAttributes_ok (h : s.attributes document = .ok m) :
    documentAttributes s document = ⟨[], some (m, phasesOf m)⟩ := by
  rw [documentAttributes, h]
  rfl

theorem documentAttributes_error {p : Problem} (h : s.attributes document = .error p) :
    documentAttributes s document = ⟨[⟨.error, p⟩], none⟩ := by
  rw [documentAttributes, h]
  rfl

theorem ofDocument_eq (kind : RuleKind) (host : Host) (document : Json) :
    kind.ofDocument host document = kind.ofDocumentBy kind.declarations host document := by
  cases kind <;> rfl

theorem ofDocumentBy_of_attributes (h : s.attributes document = .ok m) :
    (kind.ofDocumentBy s host document).reports = (kind.ofAttributes host m).reports ∧
      (kind.ofDocumentBy s host document).result = (kind.ofAttributes host m).result.map some := by
  cases kind with
  | spawn =>
    have built : SpawnRule.ofDocument s host document =
        ⟨(SpawnRule.ofAttributes host m (phasesOf m)).reports,
          (SpawnRule.ofAttributes host m (phasesOf m)).result.map some⟩ := by
      rw [SpawnRule.ofDocument, documentAttributes_ok h, Reported.silent_then]
      dsimp only
      generalize SpawnRule.ofAttributes host m (phasesOf m) = rule
      exact Reported.ext (List.append_nil _) rfl
    rw [ofDocumentBy, built, ofAttributes]
    generalize SpawnRule.ofAttributes host m (phasesOf m) = rule
    exact ⟨rfl, rfl⟩
  | experience =>
    have built : ExperienceRule.ofDocument s host document =
        ⟨(ExperienceRule.ofAttributes host m (phasesOf m)).reports,
          some (ExperienceRule.ofAttributes host m (phasesOf m)).result⟩ := by
      rw [ExperienceRule.ofDocument, documentAttributes_ok h, Reported.silent_then]
      dsimp only
      generalize ExperienceRule.ofAttributes host m (phasesOf m) = rule
      exact Reported.ext (List.append_nil _) rfl
    rw [ofDocumentBy, built, ofAttributes]
    generalize ExperienceRule.ofAttributes host m (phasesOf m) = rule
    exact ⟨rfl, rfl⟩

theorem ofDocumentBy_of_refused {p : Problem} (h : s.attributes document = .error p) :
    kind.ofDocumentBy s host document = ⟨[⟨.error, p⟩], .ok none⟩ := by
  cases kind with
  | spawn =>
    rw [ofDocumentBy, SpawnRule.ofDocument, documentAttributes_error h]
    rfl
  | experience =>
    rw [ofDocumentBy, ExperienceRule.ofDocument, documentAttributes_error h]
    rfl

/-- A document gives a rule exactly when it is read and none of its attributes is at fault, and then
the rule of its attributes. -/
theorem ofDocumentBy_eq_some_iff {r : kind.Rule} :
    (kind.ofDocumentBy s host document).result = .ok (some r) ↔
      ∃ m, s.attributes document = .ok m ∧ kind.Calm host m ∧ kind.ruleOf host m = r := by
  rcases h : s.attributes document with p | m
  · rw [ofDocumentBy_of_refused h]
    constructor
    · intro hr
      cases hr
    · rintro ⟨m, hm, -⟩
      cases hm
  · rw [(ofDocumentBy_of_attributes h).2]
    constructor
    · intro hr
      obtain ⟨r', made, same⟩ := exists_of_map hr
      cases same
      exact ⟨m, rfl, result_ofAttributes_iff.1 made⟩
    · rintro ⟨m', hm, made⟩
      cases hm
      rw [result_ofAttributes_iff.2 made]
      rfl

/-- A document that is not read gives no rule. -/
theorem ofDocumentBy_eq_none_iff :
    (kind.ofDocumentBy s host document).result = .ok none ↔
      ∃ p, s.attributes document = .error p := by
  rcases h : s.attributes document with p | m
  · rw [ofDocumentBy_of_refused h]
    exact iff_of_true rfl ⟨p, rfl⟩
  · rw [(ofDocumentBy_of_attributes h).2]
    refine iff_of_false (fun hr => ?_) nofun
    obtain ⟨r, -, same⟩ := exists_of_map hr
    cases same

/-- A document is at fault if it is read and one of its attributes is. -/
theorem ofDocumentBy_eq_error_iff {fault : Fault} :
    (kind.ofDocumentBy s host document).result = .error fault ↔
      fault = .endlessWeights ∧ ∃ m, s.attributes document = .ok m ∧ ¬kind.Calm host m := by
  rcases h : s.attributes document with p | m
  · rw [ofDocumentBy_of_refused h]
    refine iff_of_false nofun ?_
    rintro ⟨-, m, hm, -⟩
    cases hm
  · rw [(ofDocumentBy_of_attributes h).2]
    by_cases calm : kind.Calm host m
    · rw [ofAttributes_of_calm calm]
      refine iff_of_false nofun ?_
      rintro ⟨-, m', hm, not_calm⟩
      cases hm
      exact not_calm calm
    · rw [ofAttributes_of_not_calm calm]
      refine ⟨fun hr => ⟨(Except.error.inj hr).symm, m, rfl, calm⟩, ?_⟩
      rintro ⟨rfl, -⟩
      rfl

theorem reports_ofDocumentBy (h : s.attributes document = .ok m) (calm : kind.Calm host m) :
    (kind.ofDocumentBy s host document).reports = kind.reportsOf host m := by
  rw [(ofDocumentBy_of_attributes h).1, ofAttributes_of_calm calm]

section Own

/-! ### By the keywords of the kind -/

theorem ofDocument_of_refused {p : Problem}
    (h : kind.declarations.attributes document = .error p) :
    kind.ofDocument host document = ⟨[⟨.error, p⟩], .ok none⟩ := by
  rw [ofDocument_eq]
  exact ofDocumentBy_of_refused h

theorem ofDocument_eq_some_iff {r : kind.Rule} :
    (kind.ofDocument host document).result = .ok (some r) ↔
      ∃ m, kind.declarations.attributes document = .ok m ∧ kind.Calm host m ∧
        kind.ruleOf host m = r := by
  rw [ofDocument_eq]
  exact ofDocumentBy_eq_some_iff

theorem reports_ofDocument_of_calm (h : kind.declarations.attributes document = .ok m)
    (calm : kind.Calm host m) :
    (kind.ofDocument host document).reports = kind.reportsOf host m := by
  rw [ofDocument_eq]
  exact reports_ofDocumentBy h calm

end Own

end RuleKind

/-! ## A host and a world to try rules with -/

/-- A host that knows every identifier and biome type, with plain blocks, no creatures, no
biomes of any type and no integrations. -/
def Host.bare : Host where
  registry := {
    hasEntity := fun _ => true
    hasBlock := fun _ => true
    hasItem := fun _ => true
    hasEffect := fun _ => true
    defaultState := fun block => some (.plain block)
    biomesOfType := fun _ => some [] }
  population := {
    ofSpecies := fun _ _ => 0
    hostile := fun _ => 0
    passive := fun _ => 0
    ofMod := fun _ _ => 0
    hostileOfMod := fun _ _ => 0
    passiveOfMod := fun _ _ => 0
    players := fun _ => 0
    spawnChunks := fun _ => 0 }

/-- A world of which nothing is loaded, in darkness at the beginning of time. -/
def World.void : World where
  dimension := ⟨ResourceId.defaultSpace, "void"⟩
  dayTime := 0
  raining := false
  thundering := false
  biome := fun _ => ⟨ResourceId.defaultSpace, "void"⟩
  biomeCategory := fun _ => "none"
  inStructure := fun _ _ => false
  difficulty := .normal
  localDifficulty := fun _ => .zero false
  spawnPoint := ⟨0, 0, 0⟩
  light := fun _ => 0
  seesSky := fun _ => false
  block := fun _ => none
  energy := fun _ _ => none
  inventory := fun _ _ => none
  dayCounter := 0
  lookedAt := fun _ => none

end EventRules
