/-
Conditions that an integration decides. Each has its keyword in one table. Without the integration
the clause of the keyword warns and gives no check; with it, the check asks nothing but this
integration. So what would answer in place of an integration that is not there makes no difference.
-/
import EventRules.Proofs.Condition.Ordinary

namespace EventRules

/-! ## Keywords of integrations -/

/-- The keywords whose conditions an integration decides. -/
def integrationKeywords : List (String × Capability) :=
  [(Keyword.state.name, .enigmaScript), (Keyword.playerState.name, .enigmaScript),
    (Keyword.winter.name, .seasons), (Keyword.summer.name, .seasons),
    (Keyword.spring.name, .seasons), (Keyword.autumn.name, .seasons),
    (Keyword.gameStage.name, .gameStages),
    (Keyword.inCity.name, .lostCities), (Keyword.inStreet.name, .lostCities),
    (Keyword.inSphere.name, .lostCities), (Keyword.inBuilding.name, .lostCities),
    (Keyword.amulet.name, .baubles), (Keyword.ring.name, .baubles), (Keyword.belt.name, .baubles),
    (Keyword.trinket.name, .baubles), (Keyword.head.name, .baubles), (Keyword.body.name, .baubles),
    (Keyword.charm.name, .baubles)]

/-- The integration that decides the condition of a keyword, if one does. -/
def integrationOf (name : String) : Option Capability := Entries.find? name integrationKeywords

/-- The integration that a keyword needs and a host lacks. -/
def Host.lacking (host : Host) (name : String) : Option Capability :=
  (integrationOf name).filter fun capability => !host.integrations.has capability

namespace Condition

theorem needs_of_mem_catalogue : ∀ c ∈ catalogue, c.needs = integrationOf c.keyword := by
  decide +kernel

theorem lacking_of_mem_catalogue {c : Clause} (hc : c ∈ catalogue) (host : Host) :
    c.lacking host = host.lacking c.keyword := by
  rw [Clause.lacking, Host.lacking, needs_of_mem_catalogue c hc]

/-- Every keyword of an integration is that of a clause. -/
theorem integrationOf_mem_catalogue {name : String} {capability : Capability}
    (h : integrationOf name = some capability) : name ∈ catalogue.map Clause.keyword := by
  have table : ∀ e ∈ integrationKeywords, e.1 ∈ catalogue.map Clause.keyword := by decide +kernel
  exact table (name, capability) (Entries.mem_of_find? h)

end Condition

/-! ## Without the integration -/

namespace Clause

variable {c : Clause} {host : Host} {m : AttributeMap} {capability : Capability}

/-- What a clause takes and cannot decide gives one warning and no check. -/
theorem check_of_lacking (h : c.lacking host = some capability) {values : List Json}
    {input : c.intake.Carrier} (hv : m.values.get? c.keyword = some values)
    (hi : c.intake.take values = some input) :
    c.check host m = ⟨[⟨.warning, .missingCapability capability c.keyword⟩], none⟩ := by
  rw [check_of_input hv hi, test_of_lacking h]
  rfl

theorem result_check_of_lacking (h : c.lacking host = some capability) :
    (c.check host m).result = none := by
  unfold check
  split
  · rfl
  · rw [test_of_lacking h]
    rfl

end Clause

/-! ## Answers of integrations that are there -/

/-- The same integrations are there and answer alike; what answers in the place of one that is not
there may differ. Other names of biomes belong to no integration that a condition needs. -/
structure Integrations.Agree (a b : Integrations) : Prop where
  has : a.has = b.has
  biomeName : a.biomeName = b.biomeName
  season : a.has .seasons = true → a.season = b.season
  hasStage : a.has .gameStages = true → a.hasStage = b.hasStage
  inCity : a.has .lostCities = true → a.inCity = b.inCity
  inStreet : a.has .lostCities = true → a.inStreet = b.inStreet
  inSphere : a.has .lostCities = true → a.inSphere = b.inSphere
  inBuilding : a.has .lostCities = true → a.inBuilding = b.inBuilding
  baubleSlots : a.has .baubles = true → a.baubleSlots = b.baubleSlots
  bauble : a.has .baubles = true → a.bauble = b.bauble
  state : a.has .enigmaScript = true → a.state = b.state
  playerState : a.has .enigmaScript = true → a.playerState = b.playerState

/-- The host with other integrations. -/
def Host.withIntegrations (host : Host) (other : Integrations) : Host :=
  { host with integrations := other }

/-- A clause gives the same tests and reports wherever the integrations that are there answer
alike. -/
def Clause.Guarded (c : Clause) : Prop :=
  ∀ (host : Host) (other : Integrations), host.integrations.Agree other →
    ∀ (input : c.intake.Carrier) (companion : Option Json),
      c.test host input companion = c.test (host.withIntegrations other) input companion

namespace Clause

/-- A clause is guarded if it builds the same where the integration it needs is there. -/
theorem guarded_of_build {c : Clause}
    (same : ∀ (host : Host) (other : Integrations), host.integrations.Agree other →
      (∀ capability ∈ c.needs, host.integrations.has capability = true) →
      ∀ (input : c.intake.Carrier) (companion : Option Json),
        c.build host input companion = c.build (host.withIntegrations other) input companion) :
    c.Guarded := by
  intro host other agree input companion
  have has : (host.withIntegrations other).integrations.has = host.integrations.has :=
    agree.has.symm
  have lacking : c.lacking (host.withIntegrations other) = c.lacking host := by
    rw [Clause.lacking, Clause.lacking, has]
  -- the same integrations are there: both hosts build the test, or both warn
  rcases h : c.lacking host with _ | capability
  · rw [test_of_supported h, test_of_supported (lacking.trans h)]
    refine same host other agree (fun capability needs => ?_) input companion
    simpa using Option.filter_eq_none_iff.1 h capability needs
  · rw [test_of_lacking h, test_of_lacking (lacking.trans h)]

theorem guarded_integrated {t : ValueType} {capability : Capability} {key : Key t}
    {read : Integrations → t.Carrier → Except Problem (Event → Bool)}
    (same : ∀ a b : Integrations, a.Agree b → a.has capability = true → read a = read b) :
    (integrated capability key read).Guarded := by
  refine guarded_of_build fun host other agree has input companion => ?_
  show (do
      let holds ← Reported.ofExcept (read host.integrations input)
      return holds.map Test.fact : Reported (Option Test)) = _
  rw [same _ _ agree (has capability rfl)]
  rfl

/-- A clause that needs no integration asks none but for the names of biomes. -/
theorem Form.guarded {c : Clause} (form : c.Form) (needs : c.needs = none) : c.Guarded := by
  refine guarded_of_build fun host other agree _ input companion => ?_
  cases form with
  | biome =>
    have name : (host.withIntegrations other).integrations.biomeName =
        host.integrations.biomeName := agree.biomeName.symm
    simp only [Condition.biomeClause, name]
  | state key current => cases needs
  | integrated capability key holds => cases needs
  | bauble key slot => cases needs
  | _ => rfl

end Clause

namespace Condition

open Clause

theorem guarded_seasonClause (key : Key .boolean) (season : Season) :
    (seasonClause key season).Guarded :=
  guarded_integrated fun a b agree there => by rw [agree.season there]

theorem guarded_baubleClause (key : Key .json) (slot : BaubleSlot) :
    (baubleClause key slot).Guarded := by
  refine guarded_of_build fun host other agree has input companion => ?_
  have slots : (host.withIntegrations other).integrations.baubleSlots =
      host.integrations.baubleSlots := (agree.baubleSlots (has .baubles rfl)).symm
  have pieces : (host.withIntegrations other).integrations.bauble =
      host.integrations.bauble := (agree.bauble (has .baubles rfl)).symm
  simp only [baubleClause, slots, pieces]
  rfl

/-- The clauses that need an integration. -/
theorem filter_needs_catalogue :
    catalogue.filter (·.needs.isSome) =
      structuresAndStates.tail ++ seasonsStagesCities ++ jewellery := rfl

theorem guarded_of_needs :
    ∀ c ∈ structuresAndStates.tail ++ seasonsStagesCities ++ jewellery, c.Guarded := by
  simp only [structuresAndStates, seasonsStagesCities, jewellery, List.tail_cons,
    List.forall_mem_append, List.forall_mem_cons]
  refine ⟨⟨⟨?_, ?_, List.forall_mem_nil _⟩, ?_⟩, ?_⟩
  · exact guarded_integrated fun a b agree there => by rw [agree.state there]
  · exact guarded_integrated fun a b agree there => by rw [agree.playerState there]
  · refine ⟨guarded_seasonClause _ _, guarded_seasonClause _ _, guarded_seasonClause _ _,
      guarded_seasonClause _ _, ?_, ?_, ?_, ?_, ?_, List.forall_mem_nil _⟩
    · exact guarded_integrated fun a b agree there => by rw [agree.hasStage there]
    · exact guarded_integrated fun a b agree there => by rw [agree.inCity there]
    · exact guarded_integrated fun a b agree there => by rw [agree.inStreet there]
    · exact guarded_integrated fun a b agree there => by rw [agree.inSphere there]
    · exact guarded_integrated fun a b agree there => by rw [agree.inBuilding there]
  · exact ⟨guarded_baubleClause _ _, guarded_baubleClause _ _, guarded_baubleClause _ _,
      guarded_baubleClause _ _, guarded_baubleClause _ _, guarded_baubleClause _ _,
      guarded_baubleClause _ _, List.forall_mem_nil _⟩

theorem guarded_of_mem_catalogue {c : Clause} (hc : c ∈ catalogue) : c.Guarded := by
  rcases needs : c.needs with _ | capability
  -- the chance has no form, and asks nobody
  · rcases List.mem_cons.1 hc with rfl | hc
    · exact guarded_of_build fun _ _ _ _ _ _ => rfl
    · exact (form_of_mem_factual c hc).guarded needs
  · refine guarded_of_needs c ?_
    rw [← filter_needs_catalogue, List.mem_filter, needs]
    exact ⟨hc, rfl⟩

/-- Hosts on which the integrations that are there answer alike give a document the same checks and
reports. -/
theorem checks_withIntegrations (host : Host) {other : Integrations}
    (agree : host.integrations.Agree other) (m : AttributeMap) :
    checks (host.withIntegrations other) m = checks host m := by
  refine checksBy_congr fun c hc => ?_
  unfold Clause.check
  split
  · rfl
  · rw [guarded_of_mem_catalogue hc host other agree]

end Condition

end EventRules
