/-
Keywords that no rule of a kind takes. Every declared keyword is taken, but for a block offset
without blocks; what is left is reported in one error behind all other reports, and else makes no
difference to the rule.
-/
import EventRules.Proofs.Action.Ordinary
import EventRules.Proofs.Rule.Effect
import EventRules.Proofs.Rule.Keyword

namespace EventRules

open Reported

/-! ## Keywords that conditions take -/

namespace Condition

theorem mem_clause_consumed {c : Clause} {m : AttributeMap} {name : String} :
    name ∈ c.consumed m ↔ name = c.keyword ∨
      ((m.values.get? c.keyword).bind c.intake.take).isSome = true ∧
        ∃ key ∈ c.companion, name = key.name := by
  unfold Clause.consumed Clause.names
  split
  · rename_i taken
    rw [List.mem_cons, Option.mem_toList, Option.map_eq_some_iff, and_iff_right taken]
    simp only [Option.mem_def, eq_comm]
  · rename_i missing
    simp [missing]

theorem mem_consumed {m : AttributeMap} {name : String} :
    name ∈ consumed m ↔ (∃ c ∈ catalogue, name ∈ c.consumed m) ∨
      name ∈ [Keyword.onJoin.name, Keyword.phase.name] := by
  rw [consumed, List.mem_append, List.mem_append, or_right_comm, ← List.mem_append,
    ← List.flatMap_append, List.mem_flatMap]
  rfl

end Condition

/-! ## Keywords that a kind takes -/

namespace RuleKind

theorem blockOffset_not_taken {kind : RuleKind} {m : AttributeMap}
    (h : m.values.get? Keyword.block.name = none) :
    Keyword.blockOffset.name ∉ Condition.consumed (kind.conditions m) ++ kind.otherKeywords := by
  rw [List.mem_append, not_or, Condition.mem_consumed]
  refine ⟨?_, by cases kind <;> decide⟩
  have noClause : ∀ c ∈ Condition.catalogue, Keyword.blockOffset.name ≠ c.keyword := by decide
  rintro (⟨c, hc, taken⟩ | hn)
  · rcases Condition.mem_clause_consumed.1 taken with hn | ⟨present, key, hk, -⟩
    · exact noClause c hc hn
    · rw [(Condition.companion_of_mem_catalogue hc hk).1, values_conditions_none h] at present
      cases present
  · revert hn
    decide

/-- A declared keyword of a document is taken, unless it is a block offset without blocks. -/
theorem mem_taken_iff {kind : RuleKind} {m : AttributeMap} {name : String} {declared : Declaration}
    (hd : kind.declarations.get? name = some declared) :
    name ∈ Condition.consumed (kind.conditions m) ++ kind.otherKeywords ↔
      ¬(name = Keyword.blockOffset.name ∧ m.values.get? Keyword.block.name = none) := by
  constructor
  · rintro h ⟨rfl, hb⟩
    exact blockOffset_not_taken hb h
  · intro h
    rw [List.mem_append, Condition.mem_consumed]
    rcases use_of_declared hd with rfl | rfl | hn | rfl | ⟨⟨c, hc, rfl, -⟩, -⟩
    · exact .inl (.inr List.mem_cons_self)
    · exact .inl (.inr (List.mem_cons_of_mem _ List.mem_cons_self))
    · exact .inr hn
    -- the offset: the blocks are there, and their clause takes it with them
    · left; left
      refine ⟨_, Condition.blockClause_mem_catalogue, Condition.mem_clause_consumed.2 <|
        .inr ⟨?_, Keyword.blockOffset, rfl, rfl⟩⟩
      obtain ⟨values, there⟩ := Option.ne_none_iff_exists'.1 fun hb => h ⟨rfl, hb⟩
      have kept : (kind.conditions m).values.get? Condition.blockClause.keyword = some values := by
        rw [values_conditions, if_neg fun hh => absurd hh.2 (by decide)]
        exact there
      rw [kept]
      rfl
    · left; left
      exact ⟨c, hc, Condition.mem_clause_consumed.2 (.inl rfl)⟩

/-! ## Leftover keywords -/

/-- The names in a document that a kind does not declare, and a block offset without blocks. -/
def stray (kind : RuleKind) (d : Document) : List String :=
  d.keys.filter fun name =>
    (kind.declarations.get? name).isNone ||
      (name == Keyword.blockOffset.name && (d.get? Keyword.block.name).isNone)

theorem mem_stray {kind : RuleKind} {d : Document} {name : String} :
    name ∈ kind.stray d ↔ (d.get? name).isSome = true ∧ (kind.declarations.get? name = none ∨
      name = Keyword.blockOffset.name ∧ d.get? Keyword.block.name = none) := by
  unfold stray
  rw [List.mem_filter, Dict.mem_keys, Bool.or_eq_true, Bool.and_eq_true, beq_iff_eq,
    Option.isNone_iff_eq_none, Option.isNone_iff_eq_none]

theorem increasing_stray (kind : RuleKind) (d : Document) :
    (kind.stray d).Pairwise (· < ·) :=
  List.Pairwise.filter _ d.increasing_keys

section Documents

variable {kind : RuleKind} {host : Host} {d : Document} {m : AttributeMap}

theorem block_absent_iff (h : kind.declarations.attributes d.json = .ok m) :
    m.values.get? Keyword.block.name = none ↔ d.get? Keyword.block.name = none := by
  have filed := DeclarationSet.isSome_values_attributes h Keyword.block.name
  rw [(keyword_table kind).2.1, Bool.and_true] at filed
  rw [← Option.not_isSome_iff_eq_none, ← Option.not_isSome_iff_eq_none, filed]

theorem mem_keys_leftovers (h : kind.declarations.attributes d.json = .ok m) {name : String} :
    name ∈ (kind.leftovers m).keys ↔ name ∈ kind.stray d := by
  rw [AttributeMap.mem_keys_iff, mem_stray, ← block_absent_iff h]
  unfold leftovers
  rw [AttributeMap.values_dropAll, AttributeMap.unknown_dropAll,
    DeclarationSet.unknown_attributes h]
  rcases hd : kind.declarations.get? name with _ | declared
  · simp [DeclarationSet.undeclared_attributes h hd]
  · have filed := DeclarationSet.isSome_values_attributes h name
    rw [hd, Option.isSome_some, Bool.and_true] at filed
    simp only [Option.isNone_some, Bool.and_false, Bool.false_eq_true, or_false, reduceCtorEq,
      false_or, ← filed]
    constructor
    · intro h
      split at h
      · cases h
      · rename_i hn
        exact ⟨h, not_not.1 (mt (mem_taken_iff hd).2 hn)⟩
    · rintro ⟨present, offset⟩
      rw [if_neg fun hn => (mem_taken_iff hd).1 hn offset]
      exact present

/-- The attributes that nothing takes are those under the stray names of the document. -/
theorem keys_leftovers (h : kind.declarations.attributes d.json = .ok m) :
    (kind.leftovers m).keys = kind.stray d := by
  have apart (name : String) : (kind.leftovers m).values.get? name = none ∨
      (kind.leftovers m).unknown.get? name = none := by
    unfold leftovers
    rw [AttributeMap.values_dropAll, AttributeMap.unknown_dropAll]
    rcases DeclarationSet.values_or_unknown_attributes h name with hn | hn
    · exact .inl (by rw [hn, ite_self])
    · exact .inr hn
  -- both lists increase strictly, so only their members are compared
  exact eq_of_increasing (AttributeMap.increasing_keys_iff.2 apart) (increasing_stray kind d)
    fun name => mem_keys_leftovers h

/-! ## Reports -/

/-- What is reported of the conditions and the actions of a document. -/
def ownReports (kind : RuleKind) (host : Host) (m : AttributeMap) : List Report :=
  (Condition.checks host (kind.conditions m)).reports ++ kind.actionReports host m

theorem ordinary_ownReports {report : Report} (h : report ∈ kind.ownReports host m) :
    report.problem.Ordinary := by
  rcases List.mem_append.1 h with h | h
  · exact Condition.only_checks host _ report h
  · cases kind with
    | spawn => exact (Action.only_ofAttributes host.registry m report h).ordinary
    | experience => cases h

/-- The one error about stray names, if there are any. -/
def strayReports (kind : RuleKind) (d : Document) : List Report :=
  if kind.stray d = [] then [] else [⟨.error, .invalidKeywords kind (kind.stray d)⟩]

theorem reports_ofDocument (h : kind.declarations.attributes d.json = .ok m)
    (calm : kind.Calm host m) :
    (kind.ofDocument host d.json).reports = kind.ownReports host m ++ kind.strayReports d := by
  rw [reports_ofDocument_of_calm h calm, reportsOf, ← List.append_assoc]
  refine congrArg _ ?_
  unfold reportLeftovers strayReports
  rw [← keys_leftovers h]
  by_cases he : (kind.leftovers m).keys = []
  · rw [if_pos (AttributeMap.isEmpty_iff.2 he), if_pos he]
    rfl
  · rw [if_neg (mt AttributeMap.isEmpty_iff.1 he), if_neg he]
    rfl

/-! ## The rule without the undeclared names -/

/-- The declared members of a document. -/
def declared (kind : RuleKind) (d : Document) : Document :=
  d.restrict fun name => (kind.declarations.get? name).isSome

/-- The declared members are read as they are in the whole document. -/
theorem attributes_declared (h : kind.declarations.attributes d.json = .ok m) :
    ∃ m', kind.declarations.attributes (kind.declared d).json = .ok m' ∧ m'.values = m.values := by
  obtain ⟨m', hm', values⟩ := DeclarationSet.attributes_restrict h fun name =>
    (kind.declarations.get? name).isSome
  refine ⟨m', hm', Dict.ext_get? fun name => ?_⟩
  rw [values]
  split
  · rfl
  -- what is not declared is not filed in the whole document either
  · rename_i unknown
    exact (DeclarationSet.undeclared_attributes h (Option.not_isSome_iff_eq_none.1 unknown)).symm

theorem conditions_congr (kind : RuleKind) (host : Host) {m m' : AttributeMap}
    (h : m.values = m'.values) :
    Condition.checks host (kind.conditions m) = Condition.checks host (kind.conditions m') := by
  have same (name : String) :
      (kind.conditions m).values.get? name = (kind.conditions m').values.get? name := by
    rw [values_conditions, values_conditions, h]
  exact Condition.checks_congr (fun c _ => same c.keyword) (same _)

end Documents

/-- The stray names of a document that gives a rule are reported in one error behind all other
reports, in strictly increasing order, and no other report is of that cause. The declared members
alone give the very same rule and the same other reports. -/
theorem stray_reported_last (kind : RuleKind) (host : Host) {d : Document} {r : kind.Rule}
    (h : (kind.ofDocument host d.json).result = .ok (some r)) :
    ∃ others : List Report,
      (∀ report ∈ others, ∀ rule keys, report.problem ≠ .invalidKeywords rule keys) ∧
      (kind.ofDocument host d.json).reports = others ++ kind.strayReports d ∧
      (kind.stray d).Pairwise (· < ·) ∧
      (kind.ofDocument host (kind.declared d).json).result = .ok (some r) ∧
      (kind.ofDocument host (kind.declared d).json).reports =
        others ++ kind.strayReports (kind.declared d) := by
  obtain ⟨m, hm, calm, rfl⟩ := ofDocument_eq_some_iff.1 h
  obtain ⟨m', hm', values⟩ := attributes_declared hm
  have agree (names : List String) :
      ∀ name ∈ names, m'.values.get? name = m.values.get? name := fun _ _ => by rw [values]
  have conditions := conditions_congr kind host values
  have calm' : kind.Calm host m' := (calm_congr (agree _)).2 calm
  have own : kind.ownReports host m' = kind.ownReports host m := by
    rw [ownReports, ownReports, conditions, actionReports_congr (agree _)]
  refine ⟨kind.ownReports host m, ?_, reports_ofDocument hm calm, increasing_stray kind d, ?_, ?_⟩
  · intro report hr rule keys
    exact (ordinary_ownReports hr).ne_invalidKeywords rule keys
  · exact ofDocument_eq_some_iff.2 ⟨m', hm', calm',
      ruleOf_of_checks (congrArg Reported.result conditions) (agree _)⟩
  · rw [reports_ofDocument hm' calm', own]

/-- A block offset without blocks, an action of spawn rules, a biome type, and a name that no rule
knows. -/
def strayDocument : Document :=
  Dict.ofPairs [(Keyword.blockOffset.name, .string "0 -1 0"),
    (Keyword.healthSet.name, .number (.integer 5)), (Keyword.biomeType.name, .string "forest"),
    ("surface", .null)]

theorem stray_reported_last_offset :
    experience.stray strayDocument = ["blockoffset", "healthset", "surface"] ∧
    ∃ r, (experience.ofDocument .bare strayDocument.json).result = .ok (some r) ∧
      (experience.ofDocument .bare (experience.declared strayDocument).json).result = .ok (some r) ∧
      ∃ others : List Report,
        (experience.ofDocument .bare strayDocument.json).reports =
          others ++ experience.strayReports strayDocument := by
  have loads : experience.stray strayDocument = ["blockoffset", "healthset", "surface"] ∧
      (experience.rule? .bare strayDocument.json).isSome = true := by
    decide +kernel
  obtain ⟨r, h⟩ := exists_rule loads.2
  obtain ⟨others, -, reports, -, same, -⟩ := stray_reported_last experience .bare h
  exact ⟨loads.1, r, h, same, others, reports⟩

end RuleKind

end EventRules
