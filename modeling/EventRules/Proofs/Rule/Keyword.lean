/-
What the declared keywords of a kind are for: each is that of a clause, with values of the type the
clause takes, or one of those that are no conditions. What a clause finds under its keyword then
depends on the document alone, and not on the kind, as long as the keyword stands for a condition.
-/
import EventRules.Proofs.Condition.Given
import EventRules.Proofs.Rule.Kind

namespace EventRules

namespace RuleKind

/-- The declared keywords, gone through once: every keyword has its use, blocks are declared, and
biome types are declared as a list of strings. -/
theorem keyword_table (kind : RuleKind) :
    (∀ e ∈ kind.declarations.entries,
      e.1 = Keyword.onJoin.name ∨ e.1 = Keyword.phase.name ∨ e.1 ∈ kind.otherKeywords ∨
      e.1 = Keyword.blockOffset.name ∨
      (∃ c ∈ Condition.catalogue, e.1 = c.keyword ∧ e.2.type = c.intake.type) ∧
        ¬(kind = .spawn ∧ e.1 = Keyword.heldItem.name)) ∧
    (kind.declarations.get? Keyword.block.name).isSome = true ∧
    kind.declarations.get? Keyword.biomeType.name = some ⟨.multi, .string⟩ := by
  cases kind <;> decide +kernel

variable {kind : RuleKind} {name : String} {declared : Declaration}

theorem use_of_declared (h : kind.declarations.get? name = some declared) :
    name = Keyword.onJoin.name ∨ name = Keyword.phase.name ∨ name ∈ kind.otherKeywords ∨
      name = Keyword.blockOffset.name ∨
      (∃ c ∈ Condition.catalogue, name = c.keyword ∧ declared.type = c.intake.type) ∧
        ¬(kind = .spawn ∧ name = Keyword.heldItem.name) :=
  (keyword_table kind).1 (name, declared) (Entries.mem_of_find? h)

/-! ## Keywords of conditions -/

/-- The declared keywords that stand for conditions. -/
def conditionKeywords (kind : RuleKind) : List String :=
  kind.declarations.keys.filter fun name =>
    !(Keyword.onJoin.name :: Keyword.phase.name :: Keyword.blockOffset.name ::
      kind.otherKeywords).contains name

theorem mem_conditionKeywords :
    name ∈ kind.conditionKeywords ↔ (kind.declarations.get? name).isSome = true ∧
      name ∉ Keyword.onJoin.name :: Keyword.phase.name :: Keyword.blockOffset.name ::
        kind.otherKeywords := by
  rw [conditionKeywords, List.mem_filter, Dict.mem_keys, List.contains_eq_mem,
    Bool.not_eq_true', decide_eq_false_iff_not]

/-- The keyword of a condition is that of a clause, which takes values of the declared type. -/
theorem clause_of_conditionKeyword (h : name ∈ kind.conditionKeywords) :
    ∃ declared, kind.declarations.get? name = some declared ∧
      ¬(kind = .spawn ∧ name = Keyword.heldItem.name) ∧
      ∃ c ∈ Condition.catalogue, name = c.keyword ∧ declared.type = c.intake.type := by
  obtain ⟨key, others⟩ := mem_conditionKeywords.1 h
  obtain ⟨declared, hd⟩ := Option.isSome_iff_exists.1 key
  simp only [List.mem_cons, not_or] at others
  obtain ⟨onJoin, phase, offset, other⟩ := others
  refine ⟨declared, hd, ?_⟩
  rcases use_of_declared hd with hn | hn | hn | hn | ⟨clause, hn⟩
  · exact absurd hn onJoin
  · exact absurd hn phase
  · exact absurd hn other
  · exact absurd hn offset
  · exact ⟨hn, clause⟩

end RuleKind

/-! ## Values of clauses -/

namespace RuleKind

/-- The clauses, gone through once: a keyword that is declared is declared as its clause takes it,
and stands for a condition unless it is the one that equips the entity in spawn rules. Besides, block
offsets are declared as one value, and chances are declared. -/
theorem clause_table (kind : RuleKind) :
    (∀ c ∈ Condition.catalogue,
      (∀ declared ∈ kind.declarations.get? c.keyword, declared = c.intake.declaration) ∧
      (c.keyword ∈ Keyword.onJoin.name :: Keyword.phase.name :: Keyword.blockOffset.name ::
          kind.otherKeywords ↔
        kind = .spawn ∧ c.keyword = Keyword.heldItem.name)) ∧
    kind.declarations.get? Keyword.blockOffset.name = some ⟨.single, .json⟩ ∧
    (kind.declarations.get? Keyword.random.name).isSome = true := by
  cases kind <;> decide +kernel

variable {kind : RuleKind} {d : Document} {m : AttributeMap} {c : Clause}

theorem keyword_mem_conditionKeywords (hc : c ∈ Condition.catalogue) :
    c.keyword ∈ kind.conditionKeywords ↔ (kind.declarations.get? c.keyword).isSome = true ∧
      ¬(kind = .spawn ∧ c.keyword = Keyword.heldItem.name) := by
  rw [← ((clause_table kind).1 c hc).2, mem_conditionKeywords]

/-- What a clause finds in the attributes is what the document gives under its keyword. -/
theorem values_of_clause (hm : kind.declarations.attributes d.json = .ok m)
    (hc : c ∈ Condition.catalogue) :
    (kind.conditions m).values.get? c.keyword =
      if c.keyword ∈ kind.conditionKeywords then c.given d else none := by
  rw [values_conditions, DeclarationSet.values_attributes hm, DeclarationSet.valuesOf,
    Clause.given]
  by_cases detour : kind = .spawn ∧ c.keyword = Keyword.heldItem.name
  · rw [if_pos detour, if_neg fun h => ((keyword_mem_conditionKeywords hc).1 h).2 detour]
  · rw [if_neg detour]
    rcases hd : kind.declarations.get? c.keyword with _ | declared
    · rw [if_neg fun h => by simpa [hd] using ((keyword_mem_conditionKeywords hc).1 h).1]
      rcases d.get? c.keyword with _ | v <;> rfl
    · rw [if_pos ((keyword_mem_conditionKeywords hc).2 ⟨by rw [hd]; rfl, detour⟩),
        ((clause_table kind).1 c hc).1 declared hd]
      rcases d.get? c.keyword with _ | v <;> rfl

/-- A condition that stands in a document is taken by its clause. -/
theorem taken_of_condition (hm : kind.declarations.attributes d.json = .ok m)
    (hc : c ∈ Condition.catalogue) (hn : c.keyword ∈ kind.conditionKeywords)
    (present : (d.get? c.keyword).isSome = true) :
    ∃ values input, (kind.conditions m).values.get? c.keyword = some values ∧
      c.intake.take values = some input := by
  obtain ⟨v, hv⟩ := Option.isSome_iff_exists.1 present
  obtain ⟨declared, hd⟩ := Option.isSome_iff_exists.1 ((keyword_mem_conditionKeywords hc).1 hn).1
  obtain ⟨values, checked⟩ := DeclarationSet.admits_of_attributes hm _ v declared hv hd
  rw [((clause_table kind).1 c hc).1 declared hd] at checked
  obtain ⟨input, taken⟩ := Intake.take_of_checked checked
  refine ⟨values, input, ?_, taken⟩
  rw [values_of_clause hm hc, if_pos hn, Clause.given, hv, Option.bind_some, checked]
  rfl

end RuleKind

end EventRules
