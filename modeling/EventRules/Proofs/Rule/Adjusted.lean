/-
Rules applied to one entity, any number of them in any order, with whatever its host does to it in
between. An attribute is adjusted once at most, by the first rule that has an adjustment for it, and
never if the entity bore the marker before or does not have the attribute: the marker is put on
together with the new base and stays, so no later rule finds the attribute open.
-/
import EventRules.Proofs.Action.Body
import EventRules.Proofs.Rule.Kind

namespace EventRules

/-- The adjustment of an attribute that a rule makes, if it makes one. -/
def SpawnRule.adjustment? (r : SpawnRule) (which : EntityAttribute) : Option Adjustment :=
  r.actions.findSome? (Action.adjustment? which)

/-- A rule that is applied, and what its host did to the entity since the one before. -/
structure Application (σ : Type) where
  meanwhile : σ → σ
  rule : SpawnRule
  generator : Generator

namespace Body

variable {σ : Type} (b : Body σ)

/-- The moments of an application. -/
def made (a : Application σ) (s : σ) : List (Moment σ) :=
  (b.applyAll a.rule.actions (a.meanwhile s) a.generator).1

/-- The state that an application leaves. -/
def left (a : Application σ) (s : σ) : σ :=
  (b.applyAll a.rule.actions (a.meanwhile s) a.generator).2.1

/-- The moments of each application, one after the other. -/
def run : List (Application σ) → σ → List (List (Moment σ))
  | [], _ => []
  | a :: rest, s => b.made a s :: run rest (b.left a s)

/-- What is done to the entity puts no marker of an attribute on it or takes one, and gives it no
attribute and takes none. -/
def Keeps (f : σ → σ) : Prop := ∀ which s, b.standing which (f s) = b.standing which s

variable {b} {which : EntityAttribute} {s : σ} {a : Application σ}
  {applications before after : List (Application σ)} {adj : Adjustment}

namespace Lawful

variable (lawful : b.Lawful)
include lawful

/-! ## One application -/

theorem made_apart (kept : b.Keeps a.meanwhile)
    (h : a.rule.adjustment? which = none ∨ ¬ b.Open which s) :
    Moment.about which (b.made a s) = [] ∧
      b.standing which (b.left a s) = b.standing which s := by
  have idle : (∀ act ∈ a.rule.actions, act.adjustment? which = none) ∨
      ¬ b.Open which (a.meanwhile s) :=
    h.imp List.findSome?_eq_none_iff.1 fun closed => by rwa [Open, kept]
  obtain ⟨quiet, same⟩ := lawful.applyAll_apart a.rule.actions (g := a.generator) idle
  exact ⟨quiet, same.trans (kept which s)⟩

theorem made_of_open (kept : b.Keeps a.meanwhile) (isOpen : b.Open which s)
    (adjusts : a.rule.adjustment? which = some adj) :
    b.Adjusts which adj (b.made a s) ∧ ¬ b.Open which (b.left a s) :=
  lawful.applyAll_of_open ((kept which s).trans isOpen) adjusts

/-! ## Runs of applications -/

theorem run_quiet (kept : ∀ a ∈ applications, b.Keeps a.meanwhile)
    (h : (∀ a ∈ applications, a.rule.adjustment? which = none) ∨ ¬ b.Open which s) :
    ∀ moments ∈ b.run applications s, Moment.about which moments = [] := by
  induction applications generalizing s with
  | nil => exact List.forall_mem_nil _
  | cons a rest ih =>
    obtain ⟨keeps, others⟩ := List.forall_mem_cons.1 kept
    obtain ⟨quiet, same⟩ := lawful.made_apart (s := s) keeps
      (h.imp_left fun idle => idle a List.mem_cons_self)
    refine List.forall_mem_cons.2 ⟨quiet, ih others ?_⟩
    exact h.imp (fun idle x hx => idle x (List.mem_cons_of_mem _ hx))
      fun closed => by rwa [Open, same]

/-- The first rule that has an adjustment for an open attribute makes it. -/
theorem run_of_open (kept : ∀ x ∈ before ++ a :: after, b.Keeps x.meanwhile)
    (isOpen : b.Open which s) (idle : ∀ x ∈ before, x.rule.adjustment? which = none)
    (adjusts : a.rule.adjustment? which = some adj) :
    ∃ quiet moments later, b.run (before ++ a :: after) s = quiet ++ moments :: later ∧
      quiet.length = before.length ∧
      b.Adjusts which adj moments ∧
      ∀ others ∈ quiet ++ later, Moment.about which others = [] := by
  induction before generalizing s with
  | nil =>
    obtain ⟨keeps, others⟩ := List.forall_mem_cons.1 kept
    obtain ⟨adjusted, closed⟩ := lawful.made_of_open keeps isOpen adjusts
    exact ⟨[], b.made a s, b.run after (b.left a s), rfl, rfl, adjusted,
      lawful.run_quiet others (.inr closed)⟩
  | cons x rest ih =>
    obtain ⟨keeps, others⟩ := List.forall_mem_cons.1 kept
    obtain ⟨first, idle⟩ := List.forall_mem_cons.1 idle
    -- a rule without an adjustment leaves the attribute open to those behind it
    obtain ⟨still, same⟩ := lawful.made_apart (s := s) keeps (.inl first)
    obtain ⟨quiet, moments, later, ran, count, adjusted, silent⟩ :=
      ih others (s := b.left x s) (same.trans isOpen) idle
    exact ⟨b.made x s :: quiet, moments, later, congrArg _ ran, congrArg (· + 1) count, adjusted,
      List.forall_mem_cons.2 ⟨still, silent⟩⟩

end Lawful

/-! ## Whole runs -/

/-- The adjustment of a rule that was read from a document is the one the document asks for. -/
theorem adjustments_of_document {declarations : DeclarationSet} {host : Host} {document : Json}
    {r : SpawnRule} (h : (SpawnRule.ofDocument declarations host document).result = .ok (some r))
    (which : EntityAttribute) :
    ∃ m, declarations.attributes document = .ok m ∧
      r.adjustment? which = m.adjustment? which ∧
      r.actions.filterMap (Action.adjustment? which) = (m.adjustment? which).toList := by
  have loaded : (RuleKind.spawn.ofDocumentBy declarations host document).result =
    .ok (some r) := h
  obtain ⟨m, hm, -, made⟩ := RuleKind.ofDocumentBy_eq_some_iff.1 loaded
  have actions : r.actions = (Action.ofAttributes host.registry m).result := made ▸ rfl
  have once : r.actions.filterMap (Action.adjustment? which) = (m.adjustment? which).toList := by
    rw [actions, Action.filterMap_ofAttributes]
  refine ⟨m, hm, ?_, once⟩
  rw [SpawnRule.adjustment?, ← List.head?_filterMap, once, Option.head?_toList]

/-- An attribute is adjusted once at most, over any sequence of applications. If the entity bore the
marker before, or does not have the attribute, or no rule has an adjustment for it, then nothing
sets the base or puts the marker on, nor, for the maximum of health, sets the health. Else the first
rule with an adjustment does all of this, once, with the value made from the base at that moment,
and the others none of it. A rule read from a document has one adjustment of an attribute at most,
that of the three keywords. The library's own entities are such entities, and to apply a rule to a
living target is an application to its entity. -/
theorem adjusted_once (which : EntityAttribute) :
    (∀ {σ : Type} (b : Body σ) (s : σ) (applications : List (Application σ)), b.Lawful →
      (∀ a ∈ applications, b.Keeps a.meanwhile) →
        ((b.view s).markers.contains which.marker = true ∨ (b.view s).base which = none ∨
            (∀ a ∈ applications, a.rule.adjustment? which = none) →
          ∀ moments ∈ b.run applications s, Moment.about which moments = []) ∧
        (∀ (before : List (Application σ)) a after adj, applications = before ++ a :: after →
          (b.view s).markers.contains which.marker = false →
          ((b.view s).base which).isSome = true →
          (∀ x ∈ before, x.rule.adjustment? which = none) →
          a.rule.adjustment? which = some adj →
            ∃ quiet moments later, b.run applications s = quiet ++ moments :: later ∧
              quiet.length = before.length ∧ b.Adjusts which adj moments ∧
              ∀ others ∈ quiet ++ later, Moment.about which others = [])) ∧
    (∀ (declarations : DeclarationSet) (host : Host) (document : Json) (r : SpawnRule),
      (SpawnRule.ofDocument declarations host document).result = .ok (some r) →
        ∃ m, declarations.attributes document = .ok m ∧
          r.adjustment? which = m.adjustment? which ∧
          r.actions.filterMap (Action.adjustment? which) = (m.adjustment? which).toList) ∧
    own.Lawful ∧
    (∀ (a : Application LivingEntity) (l : LivingEntity) (t : Target),
      t.living = some (a.meanwhile l) →
        (a.rule.apply t a.generator).1 = (own.made a l).map Moment.change ∧
        (a.rule.apply t a.generator).2.1.living = some (own.left a l)) := by
  refine ⟨fun b s applications lawful kept => ⟨fun settled => ?_, ?_⟩,
    fun declarations host document r h => adjustments_of_document h which, lawful_own,
    fun a l t living => ?_⟩
  · refine lawful.run_quiet kept ?_
    rcases settled with marked | missing | idle
    · exact .inr (not_open_iff.2 (.inl marked))
    · exact .inr (not_open_iff.2 (.inr missing))
    · exact .inl idle
  · rintro before a after adj rfl unmarked there idle adjusts
    exact lawful.run_of_open kept (open_iff.2 ⟨unmarked, there⟩) idle adjusts
  · obtain ⟨changes, state, -⟩ := applyAll_own a.rule.actions living a.generator
    exact ⟨changes, state⟩

/-- A rule that adjusts no attribute. -/
def growDocument : Document := Dict.ofPairs [(Keyword.sizeMultiply.name, .number (.integer 2))]

/-- A rule that sets, scales and offsets the maximum of health. -/
def fortifyDocument : Document :=
  Dict.ofPairs [(Keyword.healthSet.name, .number (.integer 40)),
    (Keyword.healthMultiply.name, .number (.integer 2)),
    (Keyword.healthAdd.name, .number (.integer 5)),
    (Keyword.angry.name, .bool true)]

/-- A rule that sets the maximum of health. -/
def weakenDocument : Document := Dict.ofPairs [(Keyword.healthSet.name, .number (.integer 7))]

/-- A living entity with all attributes and no marker. -/
def fresh : LivingEntity where
  base _ := some (.ofInt 20)
  health := .ofInt 20
  scale := .one

theorem adjusted_once_fortified :
    ∃ grow fortify weaken : SpawnRule,
      (SpawnRule.ofDocument SpawnRule.declarations .bare growDocument.json).result =
        .ok (some grow) ∧
      (SpawnRule.ofDocument SpawnRule.declarations .bare fortifyDocument.json).result =
        .ok (some fortify) ∧
      (SpawnRule.ofDocument SpawnRule.declarations .bare weakenDocument.json).result =
        .ok (some weaken) ∧
      ∀ g, ∃ first second third,
        own.run [⟨id, grow, g⟩, ⟨id, fortify, g⟩, ⟨id, weaken, g⟩] fresh =
          [first, second, third] ∧
        Moment.about .maxHealth first = [] ∧
        (Moment.about .maxHealth second).map Moment.change =
          [.setBase .maxHealth (.ofInt 85), .setHealth (.ofInt 85), .addMarker "ctrlHealth"] ∧
        Moment.about .maxHealth third = [] := by
  have grows : (RuleKind.spawn.rule? .bare growDocument.json).map
      (fun r : RuleKind.spawn.Rule => SpawnRule.adjustment? r .maxHealth) = some none := by
    decide +kernel
  have fortifies : (RuleKind.spawn.rule? .bare fortifyDocument.json).map
      (fun r : RuleKind.spawn.Rule => SpawnRule.adjustment? r .maxHealth) =
        some (some ⟨some (.ofInt 40), .ofInt 2, .ofInt 5⟩) := by
    decide +kernel
  have weakens : (RuleKind.spawn.rule? .bare weakenDocument.json).isSome = true := by
    decide +kernel
  obtain ⟨grow, grown, idle⟩ := RuleKind.exists_rule_of_map grows
  obtain ⟨fortify, fortified, adjusts⟩ := RuleKind.exists_rule_of_map fortifies
  obtain ⟨weaken, weakened⟩ := RuleKind.exists_rule weakens
  refine ⟨grow, fortify, weaken, grown, fortified, weakened, fun g => ?_⟩
  let applications : List (Application LivingEntity) :=
    [⟨id, grow, g⟩, ⟨id, fortify, g⟩, ⟨id, weaken, g⟩]
  have kept : ∀ a ∈ applications, own.Keeps a.meanwhile := by
    simp [applications, Keeps]
  obtain ⟨quiet, second, later, ran, one, ⟨state, base, -, adjusted⟩, silent⟩ :=
    ((adjusted_once .maxHealth).1 own fresh applications lawful_own kept).2 [⟨id, grow, g⟩]
      ⟨id, fortify, g⟩ [⟨id, weaken, g⟩] _ rfl rfl rfl (by simpa using idle) adjusts
  -- three applications, one of them before the adjustment
  obtain ⟨first, rfl⟩ := List.length_eq_one_iff.1 one
  obtain ⟨third, rfl⟩ : ∃ third, later = [third] :=
    ⟨_, (List.cons.inj (List.cons.inj ran).2).2.symm⟩
  refine ⟨first, second, third, ran, silent first (by simp), ?_, silent third (by simp)⟩
  have value : (⟨some (.ofInt 40), .ofInt 2, .ofInt 5⟩ : Adjustment).value base = .ofInt 85 := by
    show ((.ofInt 40 : Single).convert * (.ofInt 2 : Single).convert +
      (.ofInt 5 : Single).convert : Double) = .ofInt 85
    decide +kernel
  have health : (.ofInt 85 : Double).convert = (.ofInt 85 : Single) := by decide +kernel
  rw [adjusted, map_change_moments, if_pos rfl, value, health]
  rfl

end Body

end EventRules
