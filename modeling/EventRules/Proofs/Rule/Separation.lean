/-
Conditions and actions keep apart. The checks of a rule depend on nothing in its document but the
keywords of conditions and the offset of blocks, and both kinds make the same checks of them; the
actions and the outcome of a spawn rule depend on none of its conditions.
-/
import EventRules.Proofs.Rule.Effect
import EventRules.Proofs.Rule.Keyword

namespace EventRules.RuleKind

/-! ## The same conditions -/

/-- Documents with the same conditions, each for a kind of its own: they agree wherever both kinds
have a condition, and on the offset of blocks, and neither has a condition that the kind of the other
does not know. -/
structure SameConditions (kind kind' : RuleKind) (d d' : Document) : Prop where
  common : ∀ name ∈ kind.conditionKeywords, name ∈ kind'.conditionKeywords →
    d.get? name = d'.get? name
  own : ∀ name ∈ kind.conditionKeywords, name ∉ kind'.conditionKeywords → d.get? name = none
  own' : ∀ name ∈ kind'.conditionKeywords, name ∉ kind.conditionKeywords → d'.get? name = none
  offset : d.get? Keyword.blockOffset.name = d'.get? Keyword.blockOffset.name

section Conditions

variable {kind kind' : RuleKind} {d d' : Document} {m m' : AttributeMap}

theorem clause_given_of_absent {c : Clause} (h : d.get? c.keyword = none) : c.given d = none := by
  rw [Clause.given, h]
  rfl

/-- Under the keyword of a clause the attributes of both documents have the same values. -/
theorem SameConditions.values (same : SameConditions kind kind' d d')
    (hm : kind.declarations.attributes d.json = .ok m)
    (hm' : kind'.declarations.attributes d'.json = .ok m') {c : Clause}
    (hc : c ∈ Condition.catalogue) :
    (kind.conditions m).values.get? c.keyword = (kind'.conditions m').values.get? c.keyword := by
  rw [values_of_clause hm hc, values_of_clause hm' hc]
  -- a condition of one kind alone stands in neither document
  by_cases here : c.keyword ∈ kind.conditionKeywords
  · by_cases there : c.keyword ∈ kind'.conditionKeywords
    · rw [if_pos here, if_pos there, Clause.given, Clause.given, same.common _ here there]
    · rw [if_pos here, if_neg there, clause_given_of_absent (same.own _ here there)]
  · by_cases there : c.keyword ∈ kind'.conditionKeywords
    · rw [if_neg here, if_pos there, clause_given_of_absent (same.own' _ there here)]
    · rw [if_neg here, if_neg there]

theorem values_blockOffset (hm : kind.declarations.attributes d.json = .ok m) :
    (kind.conditions m).values.get? Keyword.blockOffset.name =
      (d.get? Keyword.blockOffset.name).bind fun v =>
        (Declaration.checked ⟨.single, .json⟩ Keyword.blockOffset.name v).toOption := by
  rw [values_conditions, if_neg fun h => absurd h.2 (by decide),
    DeclarationSet.values_attributes hm, DeclarationSet.valuesOf,
    (clause_table kind).2.1]
  rcases d.get? Keyword.blockOffset.name with _ | v <;> rfl

/-- The same conditions give the same checks. -/
theorem SameConditions.checks (same : SameConditions kind kind' d d') (host : Host)
    (hm : kind.declarations.attributes d.json = .ok m)
    (hm' : kind'.declarations.attributes d'.json = .ok m') :
    Condition.checks host (kind.conditions m) = Condition.checks host (kind'.conditions m') := by
  refine Condition.checks_congr (fun c hc => same.values hm hm' hc) ?_
  rw [values_blockOffset hm, values_blockOffset hm', same.offset]

end Conditions

/-! ## The same effects -/

/-- The keywords of spawn rules that say what a rule does and when it applies at all. -/
def effectKeywords : List String :=
  Action.keywords ++
    [Keyword.result.name, Keyword.continues.name, Keyword.onJoin.name, Keyword.phase.name]

/-- Documents that agree under these keywords are read alike wherever a spawn rule takes something
besides conditions. -/
theorem values_of_effects {d d' : Document} {m m' : AttributeMap}
    (agree : ∀ name ∈ effectKeywords, d.get? name = d'.get? name)
    (hm : SpawnRule.declarations.attributes d.json = .ok m)
    (hm' : SpawnRule.declarations.attributes d'.json = .ok m') :
    ∀ name ∈ Keyword.onJoin.name :: Keyword.phase.name :: spawn.otherKeywords,
      m.values.get? name = m'.values.get? name := by
  intro name hn
  have effect : name ∈ effectKeywords := by
    simp only [otherKeywords, List.mem_cons, List.mem_append] at hn
    simp only [effectKeywords, List.mem_cons, List.mem_append]
    tauto
  rw [DeclarationSet.values_attributes hm, DeclarationSet.values_attributes hm']
  exact DeclarationSet.valuesOf_congr (agree name effect)

/-! ## The two together -/

/-- Rules of documents with the same conditions, whatever their kinds, evaluate alike: they give the
same verdict, look at the same checks and leave the generator in the same place. And spawn rules of
documents that agree under all other keywords do the same, whatever their conditions. -/
theorem conditions_apart_from_effects (host : Host) :
    (∀ (kind kind' : RuleKind) (d d' : Document) (r : kind.Rule) (r' : kind'.Rule),
      (kind.ofDocument host d.json).result = .ok (some r) →
      (kind'.ofDocument host d'.json).result = .ok (some r') →
      SameConditions kind kind' d d' → ∀ e g,
        kind.isMatch r e g = kind'.isMatch r' e g ∧ kind.report r e g = kind'.report r' e g) ∧
    (∀ (d d' : Document) (r r' : SpawnRule),
      (SpawnRule.ofDocument SpawnRule.declarations host d.json).result = .ok (some r) →
      (SpawnRule.ofDocument SpawnRule.declarations host d'.json).result = .ok (some r') →
      (∀ name ∈ effectKeywords, d.get? name = d'.get? name) →
        r.actions = r'.actions ∧ r.result = r'.result ∧ r.continues = r'.continues ∧
          r.onJoin = r'.onJoin ∧ r.phases = r'.phases) := by
  constructor
  · intro kind kind' d d' r r' h h' same e g
    obtain ⟨m, hm, -, rfl⟩ := ofDocument_eq_some_iff.1 h
    obtain ⟨m', hm', -, rfl⟩ := ofDocument_eq_some_iff.1 h'
    rw [isMatch_eq, isMatch_eq, report_eq, report_eq, checks_ruleOf, checks_ruleOf,
      same.checks host hm hm']
    exact ⟨rfl, rfl⟩
  · intro d d' r r' h h' agree
    have loads : (spawn.ofDocument host d.json).result = .ok (some r) := h
    have loads' : (spawn.ofDocument host d'.json).result = .ok (some r') := h'
    obtain ⟨m, hm, -, rfl⟩ := ofDocument_eq_some_iff.1 loads
    obtain ⟨m', hm', -, rfl⟩ := ofDocument_eq_some_iff.1 loads'
    exact effects_congr (values_of_effects agree hm hm')

/-- Darkness above a stone, and zombies. -/
def tombDocument : Document :=
  Dict.ofPairs [(Keyword.maxLight.name, .number (.integer 7)),
    (Keyword.block.name, .string "minecraft:stone"),
    (Keyword.blockOffset.name, .object [("offset", .object [("y", .number (.integer (-2)))])]),
    (Keyword.mob.name, .array [.string "zombie"])]

/-- What a spawn rule does with the entity, and when it applies. -/
def archerDocument : Document :=
  Dict.ofPairs [(Keyword.heldItem.name, .string "minecraft:bow"),
    (Keyword.healthSet.name, .number (.integer 30)), (Keyword.result.name, .string "allow"),
    (Keyword.phase.name, .string "night")]

/-- What an experience rule does with the experience. -/
def bountyDocument : Document := Dict.ofPairs [(Keyword.setXp.name, .number (.integer 12))]

theorem sameConditions_tomb :
    SameConditions spawn experience (tombDocument.union archerDocument)
      (tombDocument.union bountyDocument) := by
  have effects : ∀ name ∈ archerDocument.keys ++ bountyDocument.keys,
      name ∉ spawn.conditionKeywords := by
    simp only [mem_conditionKeywords]
    decide +kernel
  have known : (∀ name ∈ Dict.keys (tombDocument.union archerDocument),
        name ∈ spawn.conditionKeywords → name ∈ experience.conditionKeywords) ∧
      ∀ name ∈ Dict.keys (tombDocument.union bountyDocument),
        name ∈ experience.conditionKeywords → name ∈ spawn.conditionKeywords := by
    simp only [mem_conditionKeywords]
    decide +kernel
  refine ⟨fun name hn _ => ?_, fun name hn hn' => ?_, fun name hn hn' => ?_, rfl⟩
  · have archer := Dict.get?_eq_none_iff.2 fun h => effects name (List.mem_append_left _ h) hn
    have bounty := Dict.get?_eq_none_iff.2 fun h => effects name (List.mem_append_right _ h) hn
    rw [Dict.get?_union, Dict.get?_union, archer, bounty]
  · exact Dict.get?_eq_none_iff.2 fun h => hn' (known.1 name h hn)
  · exact Dict.get?_eq_none_iff.2 fun h => hn' (known.2 name h hn)

theorem conditions_apart_from_effects_tomb :
    ∃ r r' r'', (spawn.ofDocument .bare (Document.json (tombDocument.union archerDocument))).result =
        .ok (some r) ∧
      (experience.ofDocument .bare (Document.json (tombDocument.union bountyDocument))).result =
        .ok (some r') ∧
      (SpawnRule.ofDocument SpawnRule.declarations .bare archerDocument.json).result =
        .ok (some r'') ∧
      (∀ e g, spawn.isMatch r e g = experience.isMatch r' e g) ∧
      SpawnRule.actions r = r''.actions ∧ SpawnRule.phases r = r''.phases := by
  have loads :
      (spawn.rule? .bare (Document.json (tombDocument.union archerDocument))).isSome = true ∧
      (experience.rule? .bare (Document.json (tombDocument.union bountyDocument))).isSome = true ∧
      (spawn.rule? .bare archerDocument.json).isSome = true ∧
      ∀ name ∈ tombDocument.keys, name ∉ effectKeywords := by
    decide +kernel
  obtain ⟨r, h⟩ := exists_rule loads.1
  obtain ⟨r', h'⟩ := exists_rule loads.2.1
  obtain ⟨r'', h''⟩ := exists_rule loads.2.2.1
  have agree : ∀ name ∈ effectKeywords,
      Dict.get? (tombDocument.union archerDocument) name = archerDocument.get? name := by
    intro name hn
    have tomb := Dict.get?_eq_none_iff.2 fun h => loads.2.2.2 name h hn
    rw [Dict.get?_union, tomb, Option.or_none]
  obtain ⟨evaluation, effects⟩ := conditions_apart_from_effects .bare
  have same := evaluation spawn experience _ _ r r' h h' sameConditions_tomb
  obtain ⟨actions, -, -, -, phases⟩ := effects _ _ r r'' h h'' agree
  exact ⟨r, r', r'', h, h', h'', fun e g => (same e g).1, actions, phases⟩

end EventRules.RuleKind
