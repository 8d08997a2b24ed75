/-
Conditions of a document that loads without a report: each is enforced by a check under its keyword,
but for biome types none of which has biomes. They are left out without a word.
-/
import EventRules.Proofs.Rule.Keyword

namespace EventRules

open Reported

namespace Condition

/-- A check under the keyword of a clause is the check of this clause. -/
theorem mem_keywords_checks {host : Host} {m : AttributeMap} {c : Clause} (hc : c ∈ catalogue) :
    c.keyword ∈ (checks host m).result.map Check.keyword ↔
      (c.check host m).result.isSome = true := by
  rw [checks, result_checksBy, List.mem_map, Option.isSome_iff_exists]
  constructor
  · rintro ⟨check, hm, hk⟩
    obtain ⟨c', hc', h⟩ := List.mem_filterMap.1 hm
    obtain rfl := eq_of_keyword hc' hc ((Clause.keyword_of_check h).symm.trans hk)
    exact ⟨check, h⟩
  · rintro ⟨check, h⟩
    exact ⟨check, List.mem_filterMap.2 ⟨c, hc, h⟩, Clause.keyword_of_check h⟩

end Condition

namespace RuleKind

/-- The named biome types exist, but none of them has biomes. -/
def Barren (host : Host) (types : List String) : Prop :=
  ∀ type ∈ types, host.registry.biomesOfType (Text.upper type) = some []

/-- The clause of a condition in a silent document: what it takes from the values of its keyword,
and that it gives a check if its test is built. -/
theorem taken_of_silent {kind : RuleKind} {host : Host} {d : Document} {m : AttributeMap}
    {name : String} {v : Json} (hm : kind.declarations.attributes d.json = .ok m)
    (silent : (Condition.checks host (kind.conditions m)).reports = [])
    (hn : name ∈ kind.conditionKeywords) (hv : d.get? name = some v) (filled : v ≠ .array []) :
    ∃ c ∈ Condition.catalogue, name = c.keyword ∧ ∃ declared values input companion,
      kind.declarations.get? name = some declared ∧ declared.given name v = .ok values ∧
      c.intake.take values = some input ∧ c.intake.Filled input ∧
      (c.build host input companion).reports = [] ∧
      (name ∈ (kind.checks (kind.ruleOf host m)).map Check.keyword ↔
        (c.build host input companion).result.isSome = true) := by
  obtain ⟨declared, hd, detour, c, hc, rfl, type⟩ := clause_of_conditionKeyword hn
  obtain ⟨values, checked⟩ := DeclarationSet.admits_of_attributes hm _ v declared hv hd
  obtain ⟨given, accepted⟩ := Declaration.checked_ok checked
  rw [type] at accepted
  obtain ⟨input, taken, hf⟩ :=
    Intake.take_of_accepted (Declaration.given_ne_nil given filled) accepted
  have filed : (kind.conditions m).values.get? c.keyword = some values := by
    rw [values_conditions, if_neg detour, DeclarationSet.values_attributes hm,
      DeclarationSet.valuesOf, hv, hd]
    show (declared.checked c.keyword v).toOption = some values
    rw [checked]
    rfl
  have quiet : (c.check host (kind.conditions m)).reports = [] := by
    rw [Condition.checks, Condition.reports_checksBy, List.flatMap_eq_nil_iff] at silent
    exact silent c hc
  obtain ⟨built, check⟩ := Clause.isSome_check_of_silent filed taken quiet
  refine ⟨c, hc, rfl, declared, values, input, _, hd, given, taken, hf, built, ?_⟩
  rw [checks_ruleOf, Condition.mem_keywords_checks hc, check]

/-- In a document that loads without a report every condition with a value but the empty list has a
check under its keyword, exactly except for biome types none of which has biomes. -/
theorem enforced_iff_not_barren (kind : RuleKind) (host : Host) {d : Document} {r : kind.Rule}
    (h : (kind.ofDocument host d.json).result = .ok (some r))
    (silent : (kind.ofDocument host d.json).reports = []) {name : String}
    (hn : name ∈ kind.conditionKeywords) {v : Json} (hv : d.get? name = some v)
    (filled : v ≠ .array []) :
    name ∈ (kind.checks r).map Check.keyword ↔
      ¬(name = Keyword.biomeType.name ∧ Barren host (v.listed.filterMap ValueType.string?)) := by
  obtain ⟨m, hm, calm, rfl⟩ := ofDocument_eq_some_iff.1 h
  rw [reports_ofDocument_of_calm hm calm, reportsOf, List.append_eq_nil_iff] at silent
  obtain ⟨c, hc, rfl, declared, values, input, companion, hd, given, taken, hf, built, check⟩ :=
    taken_of_silent hm silent.1 hn hv filled
  rw [check]
  -- of all clauses only that of biome types can be silent without giving a test
  by_cases types : c.keyword = Keyword.biomeType.name
  · obtain rfl := Condition.eq_of_keyword hc Condition.biomeTypeClause_mem_catalogue types
    obtain rfl := Option.some.inj ((keyword_table kind).2.2.symm.trans hd)
    obtain rfl := Except.ok.inj ((Declaration.given_multi .string).symm.trans given)
    obtain rfl := Option.some.inj taken
    rw [Option.isSome_iff_ne_none, ne_eq, Condition.isNone_biomeTypeClause built]
    exact not_congr ⟨fun barren => ⟨types, barren⟩, fun barren => barren.2⟩
  · refine iff_of_true ?_ fun barren => types barren.1
    rcases List.mem_cons.1 hc with rfl | hc
    · rfl
    · exact (Condition.form_of_mem_factual c hc).isSome_build types hf built

/-- A light level and a time of day. -/
def duskDocument : Document :=
  Dict.ofPairs [(Keyword.maxLight.name, .number (.integer 7)),
    (Keyword.minTime.name, .string "13000")]

theorem enforced_iff_not_barren_dusk :
    ∃ r, (spawn.ofDocument .bare duskDocument.json).result = .ok (some r) ∧
      (spawn.ofDocument .bare duskDocument.json).reports = [] ∧
      Keyword.minTime.name ∈ (spawn.checks r).map Check.keyword := by
  have loads : (spawn.rule? .bare duskDocument.json).isSome = true ∧
      (spawn.ofDocument .bare duskDocument.json).reports = [] ∧
      Keyword.minTime.name ∈ spawn.conditionKeywords := by
    decide +kernel
  obtain ⟨r, h⟩ := exists_rule loads.1
  refine ⟨r, h, loads.2.1, ?_⟩
  refine (enforced_iff_not_barren spawn .bare h loads.2.1 loads.2.2 rfl (by nofun)).2 ?_
  rintro ⟨types, -⟩
  revert types
  decide

/-- A biome type alone. -/
def barrenDocument : Document := Dict.ofPairs [(Keyword.biomeType.name, .string "EMPTY")]

/-- A biome type that exists without biomes is left out and not reported. -/
theorem barren_not_enforced :
    ∃ r, (spawn.ofDocument .bare barrenDocument.json).result = .ok (some r) ∧
      (spawn.ofDocument .bare barrenDocument.json).reports = [] ∧
      Keyword.biomeType.name ∈ spawn.conditionKeywords ∧
      barrenDocument.get? Keyword.biomeType.name = some (.string "EMPTY") ∧
      Keyword.biomeType.name ∉ (spawn.checks r).map Check.keyword := by
  have loads : (spawn.rule? .bare barrenDocument.json).map
        (fun r => (spawn.checks r).map Check.keyword) = some [] ∧
      (spawn.ofDocument .bare barrenDocument.json).reports = [] ∧
      Keyword.biomeType.name ∈ spawn.conditionKeywords := by
    decide +kernel
  obtain ⟨r, h, keywords⟩ := exists_rule_of_map loads.1
  refine ⟨r, h, loads.2.1, loads.2.2, rfl, ?_⟩
  rw [keywords]
  exact List.not_mem_nil

end RuleKind

end EventRules
