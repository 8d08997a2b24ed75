/-
What rules are made of besides their checks. It stands under the keywords that are no conditions:
attributes that agree there give rules that differ in their checks at most.
-/
import EventRules.Proofs.Action.Reading
import EventRules.Proofs.Rule.Kind

namespace EventRules

attribute [ext] SpawnRule ExperienceRule

namespace RuleKind

open Reported

variable {kind : RuleKind} {host : Host} {m m' : AttributeMap}

/-- Actions find the same where documents agree on what spawn rules take besides conditions. -/
theorem agree_of_values
    (agree : ∀ name ∈ spawn.otherKeywords, m.values.get? name = m'.values.get? name) :
    Action.Agree m m' :=
  Action.agree_of_values fun name hn => agree name (List.mem_append_left _ hn)

/-- The effects of spawn rules: what they do and when they apply at all. -/
theorem effects_congr
    (agree : ∀ name ∈ Keyword.onJoin.name :: Keyword.phase.name :: spawn.otherKeywords,
      m.values.get? name = m'.values.get? name) :
    let r : SpawnRule := spawn.ruleOf host m
    let r' : SpawnRule := spawn.ruleOf host m'
    r.actions = r'.actions ∧ r.result = r'.result ∧ r.continues = r'.continues ∧
      r.onJoin = r'.onJoin ∧ r.phases = r'.phases := by
  have others : Action.Agree m m' :=
    agree_of_values fun name hn => agree name (List.mem_cons_of_mem _ (List.mem_cons_of_mem _ hn))
  have actions := others.ofAttributes host.registry
  have result := AttributeMap.get?_congr (agree Keyword.result.name (by decide))
  have continues := AttributeMap.get?_congr (agree Keyword.continues.name (by decide))
  have onJoin := AttributeMap.get?_congr (agree Keyword.onJoin.name (by decide))
  have phases := AttributeMap.getAll_congr (agree Keyword.phase.name (by decide))
  refine ⟨congrArg Reported.result actions, ?_, ?_, ?_, congrArg Phases.ofList phases⟩
  · exact congrArg (Option.map Outcome.ofKeyword) result
  · exact congrArg (fun b : Option Bool => b.getD false) continues
  · exact congrArg (fun b : Option Bool => b.getD false) onJoin

theorem actionReports_congr
    (agree : ∀ name ∈ kind.otherKeywords, m.values.get? name = m'.values.get? name) :
    kind.actionReports host m = kind.actionReports host m' := by
  cases kind with
  | spawn => exact congrArg Reported.reports ((agree_of_values agree).ofAttributes host.registry)
  | experience => rfl

/-- Attributes that agree there are at fault together. -/
theorem calm_congr
    (agree : ∀ name ∈ kind.otherKeywords, m.values.get? name = m'.values.get? name) :
    kind.Calm host m ↔ kind.Calm host m' := by
  cases kind with
  | spawn => exact ⟨(agree_of_values agree).calm, (agree_of_values agree).symm.calm⟩
  | experience => exact Iff.rfl

/-- Attributes that give the same checks and agree on all that is no condition give the same
rule. -/
theorem ruleOf_of_checks
    (checks : (Condition.checks host (kind.conditions m)).result =
      (Condition.checks host (kind.conditions m')).result)
    (agree : ∀ name ∈ Keyword.onJoin.name :: Keyword.phase.name :: kind.otherKeywords,
      m.values.get? name = m'.values.get? name) :
    kind.ruleOf host m = kind.ruleOf host m' := by
  cases kind with
  | spawn =>
    obtain ⟨actions, result, continues, onJoin, phases⟩ := effects_congr agree
    exact SpawnRule.ext checks actions phases onJoin result continues
  | experience =>
    have result := AttributeMap.get?_congr (agree Keyword.result.name (by decide))
    have setXp := AttributeMap.get?_congr (agree Keyword.setXp.name (by decide))
    have multXp := AttributeMap.get?_congr (agree Keyword.multXp.name (by decide))
    have addXp := AttributeMap.get?_congr (agree Keyword.addXp.name (by decide))
    have phases := AttributeMap.getAll_congr (agree Keyword.phase.name (by decide))
    refine ExperienceRule.ext checks (congrArg Phases.ofList phases) ?_ setXp ?_ ?_
    · exact congrArg (fun w => (Option.map Outcome.ofKeyword w).getD .default) result
    · exact congrArg (fun x : Option Single => x.getD .one) multXp
    · exact congrArg (fun x : Option Single => x.getD (.zero false)) addXp

end RuleKind

end EventRules
