/-
The forms of the clauses in the catalogue. The catalogue is looked through once, here; what holds of
every clause is then shown form by form. First such laws: no test but that of the chance draws from
the generator, and the chance comes before all other clauses; no test but that of a count can end in
a fault.
-/
import EventRules.Proofs.Check.Draw
import EventRules.Proofs.Condition.Compile
import Mathlib.Data.List.Nodup

namespace EventRules

/-! ## Forms -/

/-- The form of a clause: how it gets its test from what it takes. -/
inductive Clause.Form : Clause → Prop
  | single {t : ValueType} (key : Key t) (holds : t.Carrier → Event → Bool) : Form (.single key holds)
  | oneOf {α : Type} [BEq α] [LawfulBEq α] (key : Key .string) (read : String → α)
    (subject : Event → α) : Form (.oneOf key read subject)
  | weather : Form (.singleOr Keyword.weather Condition.weatherNamed)
  | difficulty : Form (.singleOr Keyword.difficulty Condition.difficultyNamed)
  | everyDays : Form (.singleOr Keyword.dayCount Condition.everyDays)
  | state (key : Key .string) (current : Integrations → String → Event → Option String) :
    Form (.integrated .enigmaScript key fun i text => Condition.stateTest text (current i))
  | integrated {t : ValueType} (capability : Capability) (key : Key t)
    (holds : Integrations → t.Carrier → Event → Bool) :
    Form (.integrated capability key fun i v => .ok (holds i v))
  | block : Form Condition.blockClause
  | biome : Form Condition.biomeClause
  | biomeType : Form Condition.biomeTypeClause
  | equipment (key : Key .json) (slots : List EquipmentSlot) :
    Form (Condition.equipmentClause key slots)
  | bauble (key : Key .json) (slot : BaubleSlot) : Form (Condition.baubleClause key slot)
  | mob : Form Condition.mobClause
  | count {key : Key .json} (passes : Int64 → Int64 → Bool)
    (bound : key.name ∈ [Keyword.minCount.name, Keyword.maxCount.name]) :
    Form (Condition.countClause key passes)

namespace Condition

open Clause

/-- The clauses behind the chance. -/
def factual : List Clause :=
  placeAndTime.tail ++ worldState ++ blocksAndBiomes ++ equipment ++ structuresAndStates ++
    seasonsStagesCities ++ jewellery ++ nature ++ attack ++ countsAndDays

theorem catalogue_eq : catalogue = chanceClause :: factual := rfl

theorem form_of_mem_factual : ∀ c ∈ factual, c.Form := by
  simp only [factual, placeAndTime, worldState, blocksAndBiomes, equipment, structuresAndStates,
    seasonsStagesCities, jewellery, nature, attack, countsAndDays, List.tail_cons,
    List.forall_mem_append, List.forall_mem_cons]
  -- the first constructor that fits: scripted states come before other integrations
  and_intros
  all_goals first | exact List.forall_mem_nil _ | exact .count _ (by decide) | constructor

theorem blockClause_mem_surroundings : blockClause ∈ surroundings := by
  simp only [surroundings, blocksAndBiomes, List.mem_append, List.mem_cons, true_or, or_true]

theorem blockClause_mem_catalogue : blockClause ∈ catalogue :=
  List.mem_append_left _ blockClause_mem_surroundings

theorem biomeTypeClause_mem_catalogue : biomeTypeClause ∈ catalogue := by
  simp only [catalogue, surroundings, blocksAndBiomes, List.mem_append, List.mem_cons, true_or,
    or_true]

theorem nodup_keywords : (catalogue.map Clause.keyword).Nodup := by
  decide +kernel

/-- No two clauses share a keyword. -/
theorem eq_of_keyword {c c' : Clause} (hc : c ∈ catalogue) (hc' : c' ∈ catalogue)
    (h : c.keyword = c'.keyword) : c = c' :=
  List.inj_on_of_nodup_map nodup_keywords hc hc' h

/-- The block offset is the one companion, that of the blocks. -/
theorem companion_of_mem_catalogue {c : Clause} (hc : c ∈ catalogue) {key : Key .json}
    (hk : key ∈ c.companion) : c.keyword = Keyword.block.name ∧ key = Keyword.blockOffset := by
  rcases List.mem_cons.1 hc with rfl | hc
  · cases hk
  · cases form_of_mem_factual c hc with
    | block =>
      cases hk
      exact ⟨rfl, rfl⟩
    | _ => cases hk

/-- Conditions are made of the values under the keywords of clauses and of the offset of blocks. -/
theorem checks_congr {host : Host} {a b : AttributeMap}
    (keywords : ∀ c ∈ catalogue, a.values.get? c.keyword = b.values.get? c.keyword)
    (offset : a.values.get? Keyword.blockOffset.name = b.values.get? Keyword.blockOffset.name) :
    checks host a = checks host b := by
  refine checksBy_congr fun c hc => check_congr (keywords c hc) fun key hk => ?_
  obtain ⟨-, rfl⟩ := companion_of_mem_catalogue hc hk
  exact offset

end Condition

/-! ## Facts -/

/-- The test, if there is one, is a fact about the event. -/
def Reported.Factual (r : Reported (Option Test)) : Prop :=
  ∀ t ∈ r.result, ∃ holds, t = .fact holds

theorem Reported.factual_none : Factual (pure none) := fun _ h => by cases h

theorem Reported.factual_fact (holds : Event → Bool) : Factual (pure (some (.fact holds))) := by
  rintro t ⟨⟩
  exact ⟨holds, rfl⟩

theorem Reported.factual_bind {α : Type} {r : Reported α} {f : α → Reported (Option Test)}
    (h : (f r.result).Factual) : (r >>= f).Factual := h

/-- Something that says what holds, if it is there, gives a fact. -/
theorem Reported.factual_option {α : Type} (x : Option α) (holds : α → Event → Bool) :
    Factual (pure (x.map fun a => .fact (holds a))) := by
  intro t h
  obtain ⟨a, -, rfl⟩ := Option.map_eq_some_iff.1 h
  exact ⟨holds a, rfl⟩

theorem Reported.factual_map {α : Type} (r : Reported (Option α)) (holds : α → Event → Bool) :
    Factual (r >>= fun x => pure (x.map fun a => .fact (holds a))) :=
  factual_bind (factual_option r.result holds)

/-- A test that is made only where there is something to make it of is a fact as well. -/
theorem Reported.factual_unless {empty : Bool} (holds : Event → Bool) :
    Factual (pure (if empty = true then none else some (.fact holds))) := by
  split
  · exact factual_none
  · exact factual_fact holds

theorem Condition.factual_itemsTest (registry : Registry) (descriptions : List Json)
    (holds : List ItemMatcher → Event → Bool) :
    (itemsTest registry descriptions holds).Factual :=
  Reported.factual_bind (Reported.factual_unless _)

theorem Condition.factual_biomeClause (host : Host) (names : List String)
    (companion : Option Json) : (biomeClause.build host names companion).Factual := by
  intro t h
  obtain ⟨ids, -, h⟩ := Option.bind_eq_some_iff.1 h
  obtain ⟨names, -, h⟩ := Option.bind_eq_some_iff.1 h
  cases h
  exact ⟨_, rfl⟩

theorem Condition.factual_blockTest (registry : Registry) (descriptions : List Json)
    (offset : Option Json) : (blockTest registry descriptions offset).Factual := by
  unfold blockTest
  intro t h
  dsimp only at h
  split at h
  · cases h
  · exact Reported.factual_map _ _ t h

/-- The keywords of conditions that count. -/
def Condition.countKeywords : List String := [Keyword.minCount.name, Keyword.maxCount.name]

/-- A clause of one of the forms gives a fact, or it counts. -/
theorem Clause.Form.factual_or_count {c : Clause} (form : c.Form) (host : Host)
    (input : c.intake.Carrier) (companion : Option Json) :
    (c.build host input companion).Factual ∨ c.keyword ∈ Condition.countKeywords ∧
      ∀ t ∈ (c.build host input companion).result, ∃ holds, t = .count holds := by
  cases form with
  | single key holds => exact .inl (Reported.factual_fact _)
  | oneOf key read subject => exact .inl (Reported.factual_option _ _)
  | weather => exact .inl (Reported.factual_map _ fun holds => holds)
  | difficulty => exact .inl (Reported.factual_map _ fun holds => holds)
  | everyDays => exact .inl (Reported.factual_map _ fun holds => holds)
  | state key current => exact .inl (Reported.factual_map _ fun holds => holds)
  | integrated capability key holds => exact .inl (Reported.factual_map _ fun holds => holds)
  | block => exact .inl (Condition.factual_blockTest _ _ _)
  | biome => exact .inl (Condition.factual_biomeClause _ _ _)
  | biomeType => exact .inl (Reported.factual_bind (Reported.factual_unless _))
  | equipment key slots => exact .inl (Condition.factual_itemsTest _ _ _)
  | bauble key slot => exact .inl (Condition.factual_itemsTest _ _ _)
  | mob => exact .inl (Reported.factual_bind (Reported.factual_option _ _))
  | count passes bound =>
    refine .inr ⟨bound, fun t h => ?_⟩
    obtain ⟨info, -, rfl⟩ := Option.map_eq_some_iff.1 h
    exact ⟨_, rfl⟩

theorem Clause.Form.fact_or_count {c : Clause} (form : c.Form) {host : Host} {m : AttributeMap}
    {check : Check} (h : (c.check host m).result = some check) :
    (∃ holds, check.test = .fact holds) ∨
      c.keyword ∈ Condition.countKeywords ∧ ∃ holds, check.test = .count holds := by
  unfold Clause.check at h
  split at h
  · cases h
  · rename_i input _
    obtain ⟨t, ht, rfl⟩ := Option.map_eq_some_iff.1 h
    have built : t ∈ (c.build host input (c.companion.bind m.get?)).result := by
      unfold Clause.test at ht
      split at ht
      · exact ht
      · split at ht
        · exact ht
        · cases ht
    rcases form.factual_or_count host input (c.companion.bind m.get?) with fact | ⟨counts, count⟩
    · exact .inl (fact t built)
    · exact .inr ⟨counts, count t built⟩

/-- Counts come last: no check on the surroundings of an event ends in a fault. -/
theorem Condition.decided_of_surroundings {host : Host} {m : AttributeMap} {check : Check}
    (h : check ∈ (checksBy host m surroundings).result) (e : Event) (g : Generator) :
    ∃ passed, (check.test.run e g).1 = .ok passed := by
  obtain ⟨c, hc, made⟩ := List.mem_filterMap.1 h
  have no_count : ∀ c ∈ surroundings, c.keyword ∉ countKeywords := by decide
  rcases List.mem_cons.1 (List.mem_append_left occasion hc) with rfl | factual
  · unfold Clause.check at made
    split at made
    · cases made
    · cases made
      exact ⟨_, rfl⟩
  · rcases (form_of_mem_factual c factual).fact_or_count made with ⟨holds, fact⟩ | ⟨counts, -⟩
    · rw [fact]
      exact ⟨_, rfl⟩
    · exact absurd counts (no_count c hc)

/-! ## Draws -/

theorem Clause.Form.check_not_draws {c : Clause} (form : c.Form) {host : Host} {m : AttributeMap}
    {check : Check} (h : (c.check host m).result = some check) : check.test.draws = false := by
  rcases form.fact_or_count h with ⟨holds, fact⟩ | ⟨-, holds, count⟩
  · rw [fact, Test.draws]
  · rw [count, Test.draws]

namespace Condition

variable (host : Host) (m : AttributeMap)

/-- What the clauses behind the chance give draws nothing. -/
theorem facts_of_factual :
    ∀ check ∈ factual.filterMap fun c => (c.check host m).result, check.test.draws = false := by
  intro check hm
  obtain ⟨c, hc, h⟩ := List.mem_filterMap.1 hm
  exact (form_of_mem_factual c hc).check_not_draws h

/-- The checks of a document are its chance, if it has one, and checks that draw nothing. -/
theorem result_checks :
    (checks host m).result =
      (chanceClause.check host m).result.toList ++
        factual.filterMap fun c => (c.check host m).result := by
  rw [checks, checksBy, catalogue_eq, List.filterMap_cons]
  rcases (chanceClause.check host m).result with _ | chance <;> rfl

theorem facts_behind_first :
    ∀ check ∈ (checks host m).result.tail, check.test.draws = false := by
  intro check hm
  refine facts_of_factual host m check ?_
  rw [result_checks] at hm
  -- the tail begins behind the chance, or among the facts if there is no chance
  rcases h : (chanceClause.check host m).result with _ | chance
  · rw [h] at hm
    exact List.mem_of_mem_tail hm
  · rw [h] at hm
    exact hm

theorem draws_of_chance {check : Check} (h : (chanceClause.check host m).result = some check) :
    check.test.draws = true := by
  unfold Clause.check at h
  split at h
  · cases h
  · cases h
    rfl

/-- The checks of a document have a chance if it has a value under the keyword for it. -/
theorem countP_draws_checks_eq :
    (checks host m).result.countP (·.test.draws) =
      if (chanceClause.check host m).result.isSome then 1 else 0 := by
  have facts : (factual.filterMap fun c => (c.check host m).result).countP (·.test.draws) = 0 :=
    List.countP_eq_zero.2 fun check hc => Bool.eq_false_iff.1 (facts_of_factual host m check hc)
  rw [result_checks, List.countP_append, facts]
  rcases h : (chanceClause.check host m).result with _ | chance
  · rfl
  · rw [Option.toList_some, List.countP_singleton, draws_of_chance host m h]
    rfl

/-- Among the checks of a document at most one is a chance. -/
theorem countP_draws_checks : (checks host m).result.countP (·.test.draws) ≤ 1 := by
  rw [countP_draws_checks_eq]
  split <;> omega

/-- The evaluation of the checks of a document takes one word if they have a chance, and else
none. -/
theorem allPass_checks_generator (e : Event) (g : Generator) :
    (Check.allPass (checks host m).result e g).2 =
      g.skip (if (chanceClause.check host m).result.isSome then 1 else 0) := by
  rw [Check.allPass_generator (facts_behind_first host m), countP_draws_checks_eq]

end Condition

end EventRules
