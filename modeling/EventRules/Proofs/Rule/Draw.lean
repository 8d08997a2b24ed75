/-
The random words that rules take. A rule takes one word whenever it is asked about an event if its
document has a chance, and else none; its actions take one for each piece of equipment they give to
a living target. Neither the event nor the words themselves nor what comes of them matter, so that
after any sequence of calls the place in the stream of words is known beforehand.
-/
import EventRules.Proofs.Action.Draw
import EventRules.Proofs.Check.Evaluation
import EventRules.Proofs.Rule.Keyword

namespace EventRules

/-! ## One rule -/

namespace RuleKind

variable {kind : RuleKind} {host : Host} {d : Document}

/-- The conditions of a document have a chance if it has the keyword for it. -/
theorem isSome_chance {m : AttributeMap} (hm : kind.declarations.attributes d.json = .ok m) :
    (Condition.chanceClause.check host (kind.conditions m)).result.isSome =
      d.contains Keyword.random.name := by
  have clause : Condition.chanceClause ∈ Condition.catalogue := List.mem_cons_self
  rcases present : d.contains Keyword.random.name with _ | _
  · rw [Dict.contains, Option.isSome_eq_false_iff, Option.isNone_iff_eq_none] at present
    rw [Clause.check_of_absent
      (values_conditions_none (DeclarationSet.absent_attributes hm present))]
    rfl
  -- both kinds declare chances, so one that stands in the document is taken
  · have condition : Condition.chanceClause.keyword ∈ kind.conditionKeywords :=
      (keyword_mem_conditionKeywords clause).2
        ⟨(clause_table kind).2.2, fun detour => absurd detour.2 (by decide)⟩
    obtain ⟨values, input, found, taken⟩ := taken_of_condition hm clause condition present
    rw [Clause.check_of_input found taken]
    rfl

variable {r : kind.Rule} (h : (kind.ofDocument host d.json).result = .ok (some r))
include h

theorem isMatch_generator (e : Event) (g : Generator) :
    (kind.isMatch r e g).2 = g.skip (if d.contains Keyword.random.name then 1 else 0) := by
  obtain ⟨m, hm, -, rfl⟩ := ofDocument_eq_some_iff.1 h
  rw [isMatch_eq, checks_ruleOf, Condition.allPass_checks_generator, isSome_chance hm]

theorem report_generator (e : Event) (g : Generator) :
    (kind.report r e g).2 = g.skip (if d.contains Keyword.random.name then 1 else 0) := by
  rw [report_eq, Check.report_generator, ← isMatch_eq]
  exact isMatch_generator h e g

end RuleKind

/-! ## Sequences of calls -/

/-- A rule of a document that is asked about an event, plainly or in detail, or that acts on a
target. -/
inductive Call (host : Host) where
  | isMatch (kind : RuleKind) (d : Document) (r : kind.Rule)
    (loaded : (kind.ofDocument host d.json).result = .ok (some r)) (e : Event)
  | report (kind : RuleKind) (d : Document) (r : kind.Rule)
    (loaded : (kind.ofDocument host d.json).result = .ok (some r)) (e : Event)
  | apply (d : Document) (r : SpawnRule)
    (loaded : (RuleKind.spawn.ofDocument host d.json).result = .ok (some r)) (t : Target)

namespace Call

variable {host : Host}

/-- The generator behind a call. -/
def run : Call host → Generator → Generator
  | isMatch kind _ r _ e, g => (kind.isMatch r e g).2
  | report kind _ r _ e, g => (kind.report r e g).2
  | apply _ r _ t, g => (r.apply t g).2.2

/-- The generator behind calls that are made in turn. -/
def runAll (calls : List (Call host)) (g : Generator) : Generator :=
  calls.foldl (fun g c => c.run g) g

/-- All that is known of a call beforehand: its document, and whether its target is living if it
has one. -/
def outline : Call host → Document × Option Bool
  | isMatch _ d _ _ _ => (d, none)
  | report _ d _ _ _ => (d, none)
  | apply d _ _ t => (d, some t.living.isSome)

/-- The pieces of equipment that the spawn rule of a document gives. -/
def equipment (host : Host) (d : Document) : Nat :=
  (RuleKind.spawn.rule? host d.json).elim 0 fun r => (SpawnRule.actions r).countP Action.equips

/-- The words a call takes, told from its outline. -/
def words (host : Host) : Document × Option Bool → Nat
  | (d, none) => if d.contains Keyword.random.name then 1 else 0
  | (d, some living) => if living then equipment host d else 0

/-- The words that calls take together. -/
def wordsOfAll (host : Host) : List (Document × Option Bool) → Nat
  | [] => 0
  | outline :: rest => words host outline + wordsOfAll host rest

theorem run_eq (c : Call host) (g : Generator) : c.run g = g.skip (words host c.outline) := by
  cases c with
  | isMatch kind d r loaded e => exact RuleKind.isMatch_generator loaded e g
  | report kind d r loaded e => exact RuleKind.report_generator loaded e g
  | apply d r loaded t =>
    have pieces : equipment host d = r.actions.countP Action.equips := by
      rw [equipment, RuleKind.rule?_eq_some_iff.2 loaded]
      rfl
    rw [outline, words, pieces]
    exact Action.applyAll_generator r.actions t g

/-- A run of calls takes the words of each. -/
theorem runAll_eq (calls : List (Call host)) (g : Generator) :
    runAll calls g = g.skip (wordsOfAll host (calls.map outline)) := by
  induction calls generalizing g with
  | nil => rfl
  | cons c rest ih =>
    rw [List.map_cons, wordsOfAll, ← Generator.skip_skip, ← run_eq]
    exact ih (c.run g)

end Call

namespace RuleKind

/-- What a rule takes from the generator is fixed by its document: one word for each evaluation,
plain or detailed, if there is a chance in it, and else none. Its actions take one word for each
piece of equipment if the target is living, and else none. So two runs of calls on the same
documents, and on targets that are living in the one where they are in the other, come from the same
place to the same place, whatever the words, the events and the targets are otherwise. -/
theorem draws_by_document (host : Host) :
    (∀ (kind : RuleKind) (d : Document) (r : kind.Rule),
      (kind.ofDocument host d.json).result = .ok (some r) → ∀ e g,
        (kind.isMatch r e g).2 = g.skip (if d.contains Keyword.random.name then 1 else 0) ∧
        (kind.report r e g).2 = g.skip (if d.contains Keyword.random.name then 1 else 0)) ∧
    (∀ (r : SpawnRule) (t : Target) (g : Generator),
      (r.apply t g).2.2 =
        g.skip (if t.living.isSome then r.actions.countP Action.equips else 0)) ∧
    (∀ (a b : List (Call host)) (g g' : Generator),
      a.map Call.outline = b.map Call.outline → g.drawn = g'.drawn →
        (Call.runAll a g).drawn = (Call.runAll b g').drawn) := by
  refine ⟨fun kind d r h e g => ⟨isMatch_generator h e g, report_generator h e g⟩,
    fun r t g => Action.applyAll_generator r.actions t g, fun a b g g' same start => ?_⟩
  rw [Call.runAll_eq, Call.runAll_eq, same, Generator.skip, Generator.skip, start]

/-- A chance, a condition, and two pieces of equipment. -/
def ambushDocument : Document :=
  Dict.ofPairs [(Keyword.random.name, .number (.integer 1)),
    (Keyword.maxLight.name, .number (.integer 7)),
    (Keyword.heldItem.name, .array [.string "minecraft:bow", .string "minecraft:stick"]),
    (Keyword.armorHelmet.name, .string "minecraft:iron_helmet")]

theorem draws_by_document_ambush :
    ∃ r : SpawnRule, (spawn.ofDocument .bare ambushDocument.json).result = .ok (some r) ∧
      r.actions.countP Action.equips = 2 ∧
      (∀ e g, (spawn.isMatch r e g).2 = g.skip 1) ∧
      (∀ (l : LivingEntity) g, (r.apply ⟨some l, []⟩ g).2.2 = g.skip 2) ∧
      (∀ (e e' : Event) (l l' : LivingEntity) (g g' : Generator), g.drawn = g'.drawn →
        ((r.apply ⟨some l, []⟩ (r.isMatch e g).2).2.2).drawn =
          ((r.apply ⟨some l', []⟩ (r.report e' g').2).2.2).drawn) := by
  have loads : (spawn.rule? .bare ambushDocument.json).map
      (fun r : spawn.Rule => (SpawnRule.actions r).countP Action.equips) = some 2 := by
    decide +kernel
  obtain ⟨r, h, pieces⟩ : ∃ r : SpawnRule,
      (spawn.ofDocument .bare ambushDocument.json).result = .ok (some r) ∧
        r.actions.countP Action.equips = 2 := exists_rule_of_map loads
  obtain ⟨evaluations, actions, runs⟩ := draws_by_document .bare
  refine ⟨r, h, pieces, fun e g => (evaluations spawn _ r h e g).1, fun l g => ?_,
    fun e e' l l' g g' start => ?_⟩
  · rw [actions, pieces]
    rfl
  · exact runs [.isMatch spawn _ r h e, .apply _ r h ⟨some l, []⟩]
      [.report spawn _ r h e', .apply _ r h ⟨some l', []⟩] g g' rfl start

end RuleKind

end EventRules
