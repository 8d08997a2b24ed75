/-
The conjunction law: a rule built from the members of two documents together matches exactly when
the rules built from each of them do, and its checks are theirs. The two documents have no member in
common, and a block offset stands with its blocks; else nothing is asked of them, so the law holds as
well where conditions are reported and left out. Where the evaluation of one of the rules ends in a
fault there is no verdict to conjoin: what the rule of both then comes to depends on whether a check
of the other fails before that fault, but it does not match.
-/
import EventRules.Proofs.Condition.Form
import EventRules.Proofs.Rule.Kind

namespace EventRules

/-! ## Documents apart -/

/-- Documents without a common member, neither with the offset of the blocks of the other. -/
structure Document.Apart (a b : Document) : Prop where
  members : ∀ name, a.get? name = none ∨ b.get? name = none
  offset : a.get? Keyword.block.name = none ∨ b.get? Keyword.blockOffset.name = none
  offset' : b.get? Keyword.block.name = none ∨ a.get? Keyword.blockOffset.name = none

/-- Whether documents are apart can be told from their members. -/
theorem Document.apart_iff {a b : Document} :
    Document.Apart a b ↔
      (∀ name ∈ a.keys, (b.get? name).isNone = true) ∧
      ((a.get? Keyword.block.name).isNone = true ∨
        (b.get? Keyword.blockOffset.name).isNone = true) ∧
      ((b.get? Keyword.block.name).isNone = true ∨
        (a.get? Keyword.blockOffset.name).isNone = true) := by
  simp only [Option.isNone_iff_eq_none]
  constructor
  · rintro ⟨members, offset, offset'⟩
    refine ⟨fun name hn => (members name).resolve_left ?_, offset, offset'⟩
    exact Option.isSome_iff_ne_none.1 (Dict.mem_keys.1 hn)
  · rintro ⟨members, offset, offset'⟩
    refine ⟨fun name => ?_, offset, offset'⟩
    by_cases hn : name ∈ a.keys
    · exact .inr (members name hn)
    · rw [Dict.mem_keys, Option.isSome_iff_ne_none, not_not] at hn
      exact .inl hn

instance {a b : Document} : Decidable (Document.Apart a b) :=
  decidable_of_iff _ Document.apart_iff.symm

namespace DeclarationSet

variable {s : DeclarationSet} {a b : Document} {name : String}

theorem valuesOf_union (h : a.get? name = none ∨ b.get? name = none) :
    s.valuesOf (a.union b) name = (s.valuesOf a name).or (s.valuesOf b name) := by
  rcases h with h | h
  · rw [valuesOf_of_absent h, Option.none_or]
    exact valuesOf_congr (by rw [Dict.get?_union, h, Option.or_none])
  · rw [valuesOf_of_absent h, Option.or_none]
    exact valuesOf_congr (by rw [Dict.get?_union, h, Option.none_or])

theorem Admits.union (ha : s.Admits a) (hb : s.Admits b) : s.Admits (a.union b) := by
  intro name v declared hv hd
  rw [Dict.get?_union] at hv
  rcases Option.or_eq_some_iff.1 hv with hv | ⟨-, hv⟩
  · exact hb name v declared hv hd
  · exact ha name v declared hv hd

/-- The values of a union are divided between the parts. -/
theorem divided_attributes {m m₁ m₂ : AttributeMap} (apart : Document.Apart a b)
    (h : s.attributes (Document.json (a.union b)) = .ok m) (h₁ : s.attributes a.json = .ok m₁)
    (h₂ : s.attributes b.json = .ok m₂) : m.Divided m₁ m₂ where
  together name := by
    rw [values_attributes h, values_attributes h₁, values_attributes h₂]
    exact valuesOf_union (apart.members name)
  apart name := (apart.members name).imp (absent_attributes h₁) (absent_attributes h₂)

end DeclarationSet

/-! ## Conditions of divided attributes -/

namespace RuleKind

variable {kind : RuleKind} {m a b : AttributeMap}

theorem divided_conditions (kind : RuleKind) (h : m.Divided a b) :
    (kind.conditions m).Divided (kind.conditions a) (kind.conditions b) where
  together name := by
    rw [values_conditions, values_conditions, values_conditions, h.together]
    split <;> rfl
  apart name := (h.apart name).imp values_conditions_none values_conditions_none

theorem joined_conditions {c : Clause} (hc : c ∈ Condition.catalogue)
    (h : a.values.get? Keyword.block.name = none ∨ b.values.get? Keyword.blockOffset.name = none) :
    c.Joined (kind.conditions a) (kind.conditions b) := by
  intro key hk
  obtain ⟨hkey, rfl⟩ := Condition.companion_of_mem_catalogue hc hk
  rw [hkey]
  exact h.imp values_conditions_none values_conditions_none

/-- The evaluation of divided conditions comes to what those of the parts come to together. -/
theorem meets_of_divided (host : Host) (divided : m.Divided a b)
    (joined : ∀ c ∈ Condition.catalogue, c.Joined a b ∧ c.Joined b a) (e : Event) (g : Generator) :
    Check.Meets (Check.allPass (Condition.checks host m).result e g).1
      (Check.allPass (Condition.checks host a).result e g).1
      (Check.allPass (Condition.checks host b).result e g).1 := by
  have verdict (m : AttributeMap) : (Check.allPass (Condition.checks host m).result e g).1 =
      Check.conclude (Condition.catalogue.filterMap fun c =>
        (c.check host m).result.map fun check => (check.test.run e g).1) := by
    rw [Check.allPass_eq_joint (Condition.countP_draws_checks host m), Check.joint,
      Condition.checks, Condition.result_checksBy, List.map_filterMap]
  rw [verdict, verdict, verdict]
  refine Check.meets_of_divided fun c hc => ?_
  obtain ⟨hab, hba⟩ := joined c hc
  rcases c.check_of_divided host divided hab hba with ⟨hm, hn⟩ | ⟨hm, hn⟩
  · left
    rw [hm, hn]
    exact ⟨rfl, rfl⟩
  · right
    rw [hm, hn]
    exact ⟨rfl, rfl⟩

/-- Divided attributes are not at fault if neither part is: every keyword is in one of them. -/
theorem calm_of_divided {host : Host} (divided : m.Divided a b) (ha : kind.Calm host a)
    (hb : kind.Calm host b) : kind.Calm host m := by
  cases kind with
  | spawn =>
    intro e he
    rcases divided.apart e.1.name with hn | hn
    · have there := divided.together e.1.name
      rw [hn, Option.none_or] at there
      rw [AttributeMap.getAll_congr there]
      exact hb e he
    · have there := divided.together e.1.name
      rw [hn, Option.or_none] at there
      rw [AttributeMap.getAll_congr there]
      exact ha e he
  | experience => trivial

/-! ## The law -/

/-- Two documents apart that give rules give one together. It matches exactly when both rules do,
each started from the same generator; wherever both have a verdict its own is their conjunction; and
it has the checks of both. -/
theorem isMatch_union (kind : RuleKind) (host : Host) {d₁ d₂ : Document}
    (apart : Document.Apart d₁ d₂) {r₁ r₂ : kind.Rule}
    (h₁ : (kind.ofDocument host d₁.json).result = .ok (some r₁))
    (h₂ : (kind.ofDocument host d₂.json).result = .ok (some r₂)) :
    ∃ r, (kind.ofDocument host (Document.json (d₁.union d₂))).result = .ok (some r) ∧
      (∀ e g, ((kind.isMatch r e g).1 = .ok true ↔
          (kind.isMatch r₁ e g).1 = .ok true ∧ (kind.isMatch r₂ e g).1 = .ok true) ∧
        ∀ p q, (kind.isMatch r₁ e g).1 = .ok p → (kind.isMatch r₂ e g).1 = .ok q →
          (kind.isMatch r e g).1 = .ok (p && q)) ∧
      ((kind.checks r).map Check.keyword).Perm
        ((kind.checks r₁).map Check.keyword ++ (kind.checks r₂).map Check.keyword) := by
  obtain ⟨m₁, hm₁, calm₁, rfl⟩ := ofDocument_eq_some_iff.1 h₁
  obtain ⟨m₂, hm₂, calm₂, rfl⟩ := ofDocument_eq_some_iff.1 h₂
  obtain ⟨m, hm⟩ := DeclarationSet.attributes_ok_iff.2 <|
    (DeclarationSet.admits_of_attributes hm₁).union (DeclarationSet.admits_of_attributes hm₂)
  -- every clause gives its check on one side: the keywords are apart, and the offset with its blocks
  have divided := DeclarationSet.divided_attributes apart hm hm₁ hm₂
  have joined : ∀ c ∈ Condition.catalogue,
      c.Joined (kind.conditions m₁) (kind.conditions m₂) ∧
        c.Joined (kind.conditions m₂) (kind.conditions m₁) := fun c hc =>
    ⟨joined_conditions hc <| apart.offset.imp (DeclarationSet.absent_attributes hm₁)
        (DeclarationSet.absent_attributes hm₂),
      joined_conditions hc <| apart.offset'.imp (DeclarationSet.absent_attributes hm₂)
        (DeclarationSet.absent_attributes hm₁)⟩
  refine ⟨_, ofDocument_eq_some_iff.2 ⟨m, hm, calm_of_divided divided calm₁ calm₂, rfl⟩,
    fun e g => ?_, ?_⟩
  -- at most one of the checks draws, so their order and the generator behind them do not matter
  · have meets := meets_of_divided host (divided_conditions kind divided) joined e g
    simp only [isMatch_eq, checks_ruleOf]
    exact ⟨meets.passes_iff, meets.of_ok⟩
  · rw [checks_ruleOf, checks_ruleOf, checks_ruleOf, ← List.map_append]
    exact (Condition.checksBy_of_divided host (divided_conditions kind divided) joined).map _

/-- A chance, a block at an offset, and a name that no rule knows. -/
def blocksDocument : Document :=
  Dict.ofPairs [(Keyword.random.name, .number (.integer 1)),
    (Keyword.block.name, .string "minecraft:stone"),
    (Keyword.blockOffset.name, .string "0 -1 0"), ("surface", .null)]

/-- Rain, and creatures of some mod. -/
def rainDocument : Document :=
  Dict.ofPairs [(Keyword.weather.name, .string "rain"),
    (Keyword.mod.name, .array [.string "minecraft"])]

theorem isMatch_union_blocks_rain :
    Document.Apart blocksDocument rainDocument ∧
    ∃ r r₁ r₂, (experience.ofDocument .bare blocksDocument.json).result = .ok (some r₁) ∧
      (experience.ofDocument .bare rainDocument.json).result = .ok (some r₂) ∧
      (experience.ofDocument .bare (Document.json (blocksDocument.union rainDocument))).result =
        .ok (some r) ∧
      ∀ e g, (experience.isMatch r e g).1 = .ok true ↔
        (experience.isMatch r₁ e g).1 = .ok true ∧ (experience.isMatch r₂ e g).1 = .ok true := by
  have apart : Document.Apart blocksDocument rainDocument := by decide
  have loads : (experience.rule? .bare blocksDocument.json).isSome = true ∧
      (experience.rule? .bare rainDocument.json).isSome = true := by
    decide +kernel
  obtain ⟨r₁, h₁⟩ := exists_rule loads.1
  obtain ⟨r₂, h₂⟩ := exists_rule loads.2
  obtain ⟨r, hr, both, -⟩ := isMatch_union experience .bare apart h₁ h₂
  exact ⟨apart, r, r₁, r₂, h₁, h₂, hr, fun e g => (both e g).1⟩

end RuleKind

end EventRules
