/-
Conditions with several values. A list gives a test that passes on an event exactly if the test of one
of its values passes, each value given alone. For dimensions, biomes, types of biomes, mobs, sources,
mods, equipment and jewellery what is tested is a list of parts, and each value adds its own; blocks
are tested one by one, all at the same offset. So neither order nor repetition of the values matters.
-/
import EventRules.Proofs.Condition.Given
import EventRules.Proofs.Condition.Integration
import EventRules.Proofs.Rule.Kind

namespace EventRules

/-! ## Disjunctions -/

/-- What is made of several values is a disjunction: where each alone gives a test, together they give
a fact, which holds on an event if one of the values accepts it. -/
def Disjunctive {α : Type} (made : List α → Option Test) : Prop :=
  ∃ accepts : α → Event → Bool, ∀ values, values ≠ [] →
    (∀ v ∈ values, (made [v]).isSome = true) →
      ∃ holds, made values = some (.fact holds) ∧ ∀ e, holds e = values.any fun v => accepts v e

variable {α β : Type}

/-- Each value adds parts to the test, and the test asks for one part that is satisfied. -/
theorem disjunctive_of_parts {made : List α → Option Test} (part : α → List β)
    (satisfied : β → Event → Bool)
    (empty : ∀ values, values.flatMap part = [] → made values = none)
    (parts : ∀ values, values.flatMap part ≠ [] → ∃ holds, made values = some (.fact holds) ∧
      ∀ e, holds e = (values.flatMap part).any fun p => satisfied p e) :
    Disjunctive made := by
  refine ⟨fun v e => (part v).any fun p => satisfied p e, fun values filled alone => ?_⟩
  have some_part : values.flatMap part ≠ [] := by
    obtain ⟨v, rest, rfl⟩ := List.exists_cons_of_ne_nil filled
    intro none
    rw [List.flatMap_cons, List.append_eq_nil_iff] at none
    have there := alone v List.mem_cons_self
    rw [empty [v] (by rw [List.flatMap_singleton, none.1])] at there
    cases there
  obtain ⟨holds, made, all⟩ := parts values some_part
  refine ⟨holds, made, fun e => ?_⟩
  rw [all, List.any_flatMap]

/-- The test is there unless there are no parts. -/
theorem disjunctive_unless_empty {made : List α → Option Test} (part : α → List β)
    {holds : List β → Event → Bool} (satisfied : β → Event → Bool)
    (one : ∀ parts e, holds parts e = parts.any fun p => satisfied p e)
    (h : ∀ values, made values = if (values.flatMap part).isEmpty then none
      else some (.fact (holds (values.flatMap part)))) : Disjunctive made := by
  refine disjunctive_of_parts part satisfied (fun values none => ?_) fun values some_part => ?_
  · rw [h, if_pos (List.isEmpty_iff.2 none)]
  · refine ⟨_, ?_, fun e => one _ e⟩
    rw [h, if_neg (mt List.isEmpty_iff.1 some_part)]

/-- The test asks whether a subject is among the parts, as alternatives. -/
theorem disjunctive_of_alternatives [BEq β] [LawfulBEq β] {made : List α → Option Test}
    (part : α → List β) (subject : Event → β)
    (h : ∀ values, made values = (Alternatives.of? (values.flatMap part)).map fun among =>
      .fact fun e => among.contains (subject e)) : Disjunctive made := by
  refine disjunctive_of_parts part (fun x e => subject e == x) (fun values none => ?_)
    fun values some_part => ?_
  · rw [h, none]
    rfl
  · obtain ⟨among, found⟩ := Alternatives.exists_of_ne_nil some_part
    refine ⟨_, by rw [h, found]; rfl, fun e => ?_⟩
    rw [Alternatives.contains_eq found, List.contains_eq_any_beq]

namespace Condition

/-! ## Forms -/

theorem disjunctive_oneOf [BEq α] [LawfulBEq α] (key : Key .string) (read : String → α)
    (subject : Event → α) (host : Host) (companion : Option Json) :
    Disjunctive fun names : List String =>
      ((Clause.oneOf key read subject).build host names companion).result := by
  refine disjunctive_of_alternatives (fun name => [read name]) subject fun names => ?_
  show (Alternatives.of? (names.map read)).map _ = _
  rw [List.map_eq_flatMap]

/-- The species of a name, none if it is not known. -/
def speciesNamed (registry : Registry) (name : String) : List ResourceId :=
  (CountInfo.knownEntity registry name).toOption.toList

theorem result_knownSpecies (registry : Registry) (names : List String) :
    (knownSpecies registry names).result = names.flatMap (speciesNamed registry) := by
  induction names with
  | nil => rfl
  | cons name rest ih =>
    rw [knownSpecies, Reported.result_bind, Reported.result_bind, Reported.result_pure, ih,
      List.flatMap_cons, speciesNamed]
    rcases CountInfo.knownEntity registry name with p | id <;> rfl

theorem disjunctive_mobClause (host : Host) (companion : Option Json) :
    Disjunctive fun names : List String => (mobClause.build host names companion).result := by
  refine disjunctive_of_alternatives (speciesNamed host.registry) (fun e => e.entity.species)
    fun names => ?_
  show (Alternatives.of? (knownSpecies host.registry names).result).map _ = _
  rw [result_knownSpecies]

/-- The biome is the one that a name identifies, or the name is its other name, if it has one. -/
def named (here : ResourceId) (other : Option String) (name : String) : Bool :=
  here == ResourceId.parse name || other == some name

theorem any_named (here : ResourceId) (other : Option String) (names : List String) :
    names.any (named here other) =
      ((names.map ResourceId.parse).contains here || other.any names.contains) := by
  induction names with
  | nil => cases other <;> rfl
  | cons name rest ih =>
    rw [List.any_cons, ih, named, List.map_cons, List.contains_cons]
    rcases other with _ | other
    · simp
    · simp only [Option.any_some, Option.some_beq_some, List.contains_cons]
      ac_rfl

theorem disjunctive_biomeClause (host : Host) (companion : Option Json) :
    Disjunctive fun names : List String => (biomeClause.build host names companion).result := by
  refine ⟨fun name e => named (e.world.biome e.pos)
    (host.integrations.biomeName (e.world.biome e.pos)) name, fun names filled _ => ?_⟩
  obtain ⟨ids, hi⟩ :=
    Alternatives.exists_of_ne_nil (mt (List.map_eq_nil_iff (f := ResourceId.parse)).1 filled)
  obtain ⟨among, ha⟩ := Alternatives.exists_of_ne_nil filled
  have build : (biomeClause.build host names companion).result =
      (Alternatives.of? (names.map ResourceId.parse)).bind fun ids =>
        (Alternatives.of? names).bind fun among => some (.fact fun e =>
          ids.contains (e.world.biome e.pos) ||
            (host.integrations.biomeName (e.world.biome e.pos)).any among.contains) := rfl
  rw [hi, Option.bind_some, ha, Option.bind_some] at build
  refine ⟨_, build, fun e => ?_⟩
  have same : among.contains = names.contains := funext fun name => Alternatives.contains_eq ha
  rw [any_named, Alternatives.contains_eq hi, same]

/-- The biomes of a type, none if it does not exist. -/
def biomesNamed (registry : Registry) (name : String) : List ResourceId :=
  (registry.biomesOfType (Text.upper name)).getD []

theorem result_biomesOfTypes (registry : Registry) (names : List String) :
    (biomesOfTypes registry names).result = names.flatMap (biomesNamed registry) := by
  induction names with
  | nil => rfl
  | cons name rest ih =>
    rw [biomesOfTypes, List.flatMap_cons, biomesNamed]
    rcases registry.biomesOfType (Text.upper name) with _ | found
    · exact ih
    · rw [Reported.result_bind, Reported.result_pure, ih]
      rfl

theorem disjunctive_biomeTypeClause (host : Host) (companion : Option Json) :
    Disjunctive fun names : List String => (biomeTypeClause.build host names companion).result := by
  refine disjunctive_unless_empty (biomesNamed host.registry)
    (fun biome e => e.world.biome e.pos == biome) (fun _ _ => List.contains_eq_any_beq)
    fun names => ?_
  rw [← result_biomesOfTypes]
  rfl

/-! ## Items -/

theorem any_any_comm {l : List α} {l' : List β} {p : α → β → Bool} :
    (l.any fun x => l'.any fun y => p x y) = l'.any fun y => l.any fun x => p x y := by
  rw [Bool.eq_iff_iff]
  simp only [List.any_eq_true]
  constructor
  · rintro ⟨x, hx, y, hy, h⟩
    exact ⟨y, hy, x, hx, h⟩
  · rintro ⟨y, hy, x, hx, h⟩
    exact ⟨x, hx, y, hy, h⟩

/-- The item conditions of a description, none if it cannot be read. -/
def matcherOf (registry : Registry) (description : Json) : List ItemMatcher :=
  (ItemMatcher.ofJson registry description).orReport.result.toList

theorem result_listOfJson (registry : Registry) (descriptions : List Json) :
    (ItemMatcher.listOfJson registry descriptions).result =
      descriptions.flatMap (matcherOf registry) := by
  induction descriptions with
  | nil => rfl
  | cons v rest ih =>
    rw [ItemMatcher.listOfJson, Reported.result_bind, Reported.result_bind, Reported.result_pure,
      ih, List.flatMap_cons, matcherOf]

/-- Items are tested one by one: a list of conditions is satisfied if one of them is. -/
theorem disjunctive_itemsTest (registry : Registry) {holds : List ItemMatcher → Event → Bool}
    (satisfied : ItemMatcher → Event → Bool)
    (one : ∀ matchers e, holds matchers e = matchers.any fun matcher => satisfied matcher e) :
    Disjunctive fun descriptions => (itemsTest registry descriptions holds).result := by
  refine disjunctive_unless_empty (matcherOf registry) satisfied one fun descriptions => ?_
  rw [← result_listOfJson]
  rfl

/-- A player wears in one of the slots what satisfies a condition. -/
theorem any_wears {slots : List α} (item : Player → α → Option ItemStack)
    (matchers : List ItemMatcher) (e : Event) :
    (onPlayer e fun p => slots.any fun slot => wears matchers (item p slot)) =
      matchers.any fun matcher => onPlayer e fun p =>
        slots.any fun slot => wears [matcher] (item p slot) := by
  unfold onPlayer
  rcases e.player with _ | p
  · simp
  · simp only
    rw [any_any_comm]
    congr 1
    funext slot
    rcases item p slot with _ | stack
    · simp [wears]
    · rcases h : stack.isEmpty with _ | _
      · simp [wears, ItemMatcher.anyAccepts, h]
      · simp [wears, ItemMatcher.anyAccepts, h]

theorem disjunctive_equipmentClause (key : Key .json) (slots : List EquipmentSlot) (host : Host)
    (companion : Option Json) :
    Disjunctive fun descriptions : List Json =>
      ((equipmentClause key slots).build host descriptions companion).result :=
  disjunctive_itemsTest host.registry _ fun matchers e => any_wears Player.item matchers e

theorem disjunctive_baubleClause (key : Key .json) (slot : BaubleSlot) (host : Host)
    (companion : Option Json) :
    Disjunctive fun descriptions : List Json =>
      ((baubleClause key slot).build host descriptions companion).result :=
  disjunctive_itemsTest host.registry _ fun matchers e =>
    any_wears host.integrations.bauble matchers e

/-! ## Blocks -/

/-- All descriptions are read if each is. -/
theorem result_blockMatchers {registry : Registry} {descriptions : List Json}
    (each : ∀ v ∈ descriptions, ∃ m, (BlockMatcher.ofJson registry v).result = .ok m) :
    (blockMatchers registry descriptions).result =
      .ok (descriptions.filterMap fun v => (BlockMatcher.ofJson registry v).result.toOption) := by
  induction descriptions with
  | nil => rfl
  | cons v rest ih =>
    obtain ⟨⟨m, first⟩, others⟩ := List.forall_mem_cons.1 each
    rw [blockMatchers, Reported.result_bind, first]
    show ((blockMatchers registry rest) >>= _).result = _
    rw [Reported.result_bind, ih others, List.filterMap_cons, first]
    rfl

/-- A malformed offset leaves no test of any description; else all are tested at the offset. -/
theorem result_blockTest (registry : Registry) (companion : Option Json) :
    (∀ descriptions, (blockTest registry descriptions companion).result = none) ∨
    ∃ offset : BlockOffset, ∀ descriptions, (blockTest registry descriptions companion).result =
      (blockMatchers registry descriptions).orReport.result.map fun ms =>
        .fact fun e => ms.any (·.test e.world (offset.position e)) := by
  rcases companion with _ | v
  · exact .inr ⟨{}, fun _ => rfl⟩
  · rcases read : BlockOffset.ofJson v with p | offset
    · left
      intro descriptions
      simp only [blockTest, read]
      rfl
    · right
      refine ⟨offset, fun descriptions => ?_⟩
      simp only [blockTest, read]
      rfl

/-- A description is read if alone it gives matchers. -/
theorem ofJson_of_blockMatchers {registry : Registry} {v : Json}
    (h : (blockMatchers registry [v]).orReport.result.isSome = true) :
    ∃ m, (BlockMatcher.ofJson registry v).result = .ok m := by
  rcases read : (BlockMatcher.ofJson registry v).result with p | m
  · have refused : (blockMatchers registry [v]).result = .error p := by
      rw [blockMatchers, Reported.result_bind, read]
      rfl
    rw [Reported.orReport, refused] at h
    cases h
  · exact ⟨m, rfl⟩

theorem disjunctive_blockClause (host : Host) (companion : Option Json) :
    Disjunctive fun descriptions : List Json =>
      (blockClause.build host descriptions companion).result := by
  show Disjunctive fun descriptions => (blockTest host.registry descriptions companion).result
  rcases result_blockTest host.registry companion with refused | ⟨offset, build⟩
  · refine ⟨fun _ _ => false, fun descriptions filled alone => ?_⟩
    obtain ⟨v, rest, rfl⟩ := List.exists_cons_of_ne_nil filled
    have there : (blockTest host.registry [v] companion).result.isSome = true :=
      alone v List.mem_cons_self
    rw [refused] at there
    cases there
  · refine ⟨fun v e => (BlockMatcher.ofJson host.registry v).result.toOption.any fun m =>
      m.test e.world (offset.position e), fun descriptions filled alone => ?_⟩
    have each : ∀ v ∈ descriptions, ∃ m, (BlockMatcher.ofJson host.registry v).result = .ok m := by
      intro v hv
      have there : (blockTest host.registry [v] companion).result.isSome = true := alone v hv
      rw [build, Option.isSome_map] at there
      exact ofJson_of_blockMatchers there
    have built := build descriptions
    rw [Reported.orReport, result_blockMatchers each] at built
    exact ⟨_, built, fun e => List.any_filterMap⟩

end Condition

/-! ## Clauses -/

namespace Clause

/-- What a clause that takes every value makes of given values. -/
def Disjoins (c : Clause) (t : ValueType) (host : Host) (companion : Option Json) : Prop :=
  ∃ accepts : Json → Event → Bool, ∀ values, values ≠ [] →
    (∀ v ∈ values, t.accepts v = true ∧ (c.made host [v] companion).isSome = true) →
      ∃ holds, c.made host values companion = some (.fact holds) ∧
        ∀ e, holds e = values.any fun v => accepts v e

theorem made_of_lacking {c : Clause} {host : Host} {capability : Capability}
    (lacking : c.lacking host = some capability) {values : List Json} {companion : Option Json} :
    c.made host values companion = none := by
  unfold made
  rcases c.intake.take values with _ | input
  · rfl
  · rw [Option.bind_some, test_of_lacking lacking]
    rfl

theorem made_of_supported {c : Clause} {host : Host} (able : c.lacking host = none)
    {values : List Json} {companion : Option Json} :
    c.made host values companion =
      (c.intake.take values).bind fun input => (c.build host input companion).result := by
  unfold made
  simp only [test_of_supported able]

/-- What is made of the values that are given is a disjunction if what is built of those that can be
read is one. -/
theorem disjoins_of_disjunctive {t : ValueType} {keyword : String} {key : Option (Key .json)}
    {needs : Option Capability}
    {build : Host → List t.Carrier → Option Json → Reported (Option Test)} {host : Host}
    {companion : Option Json} (h : Disjunctive fun values => (build host values companion).result) :
    (Clause.mk keyword (.every t) key needs build).Disjoins t host companion := by
  obtain ⟨accepts, h⟩ := h
  refine ⟨fun v e => (t.extract v).any fun x => accepts x e, fun values filled alone => ?_⟩
  rcases able : (Clause.mk keyword (.every t) key needs build).lacking host with _ | capability
  · have made (values : List Json) :
        (Clause.mk keyword (.every t) key needs build).made host values companion =
          (build host (values.filterMap t.extract) companion).result := made_of_supported able
    have read : values.filterMap t.extract ≠ [] := by
      obtain ⟨v, rest, rfl⟩ := List.exists_cons_of_ne_nil filled
      obtain ⟨x, hx⟩ := Option.isSome_iff_exists.1 (alone v List.mem_cons_self).1
      rw [List.filterMap_cons_some hx]
      exact List.cons_ne_nil _ _
    obtain ⟨holds, built, all⟩ := h _ read fun x hx => by
      obtain ⟨v, hv, extracted⟩ := List.mem_filterMap.1 hx
      have there := (alone v hv).2
      rw [made, List.filterMap_cons_some extracted, List.filterMap_nil] at there
      exact there
    exact ⟨holds, (made values).trans built, fun e => (all e).trans List.any_filterMap⟩
  · obtain ⟨v, rest, rfl⟩ := List.exists_cons_of_ne_nil filled
    have there := (alone v List.mem_cons_self).2
    rw [made_of_lacking able] at there
    cases there

theorem Form.disjoins {c : Clause} (form : c.Form) {t : ValueType} (every : c.intake = .every t)
    (host : Host) (companion : Option Json) : c.Disjoins t host companion := by
  cases form with
  | oneOf key read subject =>
    cases every
    exact disjoins_of_disjunctive (Condition.disjunctive_oneOf key read subject host companion)
  | block =>
    cases every
    exact disjoins_of_disjunctive (Condition.disjunctive_blockClause host companion)
  | biome =>
    cases every
    exact disjoins_of_disjunctive (Condition.disjunctive_biomeClause host companion)
  | biomeType =>
    cases every
    exact disjoins_of_disjunctive (Condition.disjunctive_biomeTypeClause host companion)
  | equipment key slots =>
    cases every
    exact disjoins_of_disjunctive (Condition.disjunctive_equipmentClause key slots host companion)
  | bauble key slot =>
    cases every
    exact disjoins_of_disjunctive (Condition.disjunctive_baubleClause key slot host companion)
  | mob =>
    cases every
    exact disjoins_of_disjunctive (Condition.disjunctive_mobClause host companion)
  | _ => cases every

end Clause

/-! ## Documents -/

/-- The keywords of conditions with several values, and the types of their values. -/
def Keyword.multiValued : List (String × ValueType) :=
  [(dimension.name, .string), (dimensionMod.name, .string), (category.name, .string),
    (block.name, .json), (biome.name, .string), (biomeType.name, .string),
    (helmet.name, .json), (chestplate.name, .json), (leggings.name, .json), (boots.name, .json),
    (playerHeldItem.name, .json), (heldItem.name, .json), (offHandItem.name, .json),
    (bothHandsItem.name, .json),
    (amulet.name, .json), (ring.name, .json), (belt.name, .json), (trinket.name, .json),
    (head.name, .json), (body.name, .json), (charm.name, .json),
    (mob.name, .string), (mod.name, .string), (source.name, .string)]

/-- Each of them is that of a clause behind the chance, which takes every value. -/
theorem Keyword.clause_of_multiValued : ∀ e ∈ multiValued, ∃ c ∈ Condition.factual,
    c.keyword = e.1 ∧ c.intake.declaration = ⟨.multi, e.2⟩ := by
  decide +kernel

theorem Intake.eq_every {i : Intake} {t : ValueType} (h : i.declaration = ⟨.multi, t⟩) :
    i = .every t := by
  cases i with
  | first t' => cases h
  | every t' =>
    cases h
    rfl

namespace DeclarationSet

/-- A value given alone under a keyword of a document, as it is or as a list of one, gives one
check. -/
def GivesAlone (s : DeclarationSet) (host : Host) (d : Document) (key : String) (v : Json)
    (check : Check) : Prop :=
  ∃ w : Json, w.listed = [v] ∧ s.checksUnder host (d.insert key w) key = [check]

variable {s : DeclarationSet} {host : Host} {d : Document} {c : Clause} {t : ValueType}

theorem checked_multi_iff {name : String} {v : Json} {values : List Json} :
    Declaration.checked ⟨.multi, t⟩ name v = .ok values ↔
      values = v.listed ∧ ∀ w ∈ v.listed, t.accepts w = true := by
  constructor
  · intro h
    obtain ⟨given, accepted⟩ := Declaration.checked_ok h
    obtain rfl := Except.ok.inj ((Declaration.given_multi t).symm.trans given)
    exact ⟨rfl, accepted⟩
  · rintro ⟨rfl, accepted⟩
    have fine : v.listed.find? (fun w => !t.accepts w) = none :=
      List.find?_eq_none.2 fun w hw => by simpa using accepted w hw
    simp only [Declaration.checked, Declaration.given_multi, bind, Except.bind, fine]
    rfl

theorem givesAlone_iff (hc : c ∈ Condition.catalogue)
    (declares : s.get? c.keyword = some ⟨.multi, t⟩) {v : Json} {check : Check} :
    s.GivesAlone host d c.keyword v check ↔
      s.Admits (d.erase c.keyword) ∧ t.accepts v = true ∧
        ∃ test, c.made host [v] (s.companionOf d c) = some test ∧ check = ⟨c.keyword, test⟩ := by
  unfold GivesAlone
  simp only [checksUnder_insert_eq_iff hc declares, checked_multi_iff]
  constructor
  · rintro ⟨w, alone, others, values, test, ⟨rfl, accepted⟩, made, rfl⟩
    rw [alone] at accepted made
    exact ⟨others, accepted v List.mem_cons_self, test, made, rfl⟩
  · rintro ⟨others, accepted, test, made, rfl⟩
    exact ⟨.array [v], rfl, others, [v], test, ⟨rfl, by simpa [Json.listed] using accepted⟩, made,
      rfl⟩

/-- On an event a value is accepted or not, whether it is given alone or in a list. -/
theorem exists_accepts (hc : c ∈ Condition.catalogue)
    (declares : s.get? c.keyword = some ⟨.multi, t⟩)
    (disjoins : c.Disjoins t host (s.companionOf d c)) :
    ∃ accepts : Json → Event → Bool,
      (∀ v check, s.GivesAlone host d c.keyword v check →
        ∀ e g, check.test.run e g = (.ok (accepts v e), g)) ∧
      ∀ values, values ≠ [] → (∀ v ∈ values, ∃ check, s.GivesAlone host d c.keyword v check) →
        ∃ check, s.checksUnder host (d.insert c.keyword (.array values)) c.keyword = [check] ∧
          ∀ e g, check.test.run e g = (.ok (values.any fun v => accepts v e), g) := by
  obtain ⟨accepts, h⟩ := disjoins
  simp only [givesAlone_iff hc declares, checksUnder_insert_eq_iff hc declares, checked_multi_iff]
  refine ⟨accepts, ?_, ?_⟩
  · rintro v check ⟨-, accepted, test, made, rfl⟩ e g
    obtain ⟨holds, fact, all⟩ := h [v] (List.cons_ne_nil _ _) (by simp [accepted, made])
    rw [made] at fact
    cases fact
    show (Except.ok (holds e), g) = _
    rw [all]
    simp
  · intro values filled alone
    have others : s.Admits (d.erase c.keyword) := by
      obtain ⟨v, rest, rfl⟩ := List.exists_cons_of_ne_nil filled
      obtain ⟨_, others, -⟩ := alone v List.mem_cons_self
      exact others
    have each : ∀ v ∈ values, t.accepts v = true ∧
        (c.made host [v] (s.companionOf d c)).isSome = true := by
      intro v hv
      obtain ⟨_, -, accepted, test, made, -⟩ := alone v hv
      exact ⟨accepted, by rw [made]; rfl⟩
    obtain ⟨holds, fact, all⟩ := h values filled each
    refine ⟨⟨c.keyword, .fact holds⟩, ⟨others, values, .fact holds, ⟨rfl, fun v hv =>
      (each v hv).1⟩, fact, rfl⟩, fun e g => ?_⟩
    show (Except.ok (holds e), g) = _
    rw [all]

/-- A list of values, each of which gives a check alone, gives one check. None of these checks ends in
a fault, and that of the list passes on an event exactly if that of one of the values passes; any
list of the same values, in whatever order and however often, gives a check with the same
verdicts. -/
theorem list_disjoins (s : DeclarationSet) (host : Host) (d : Document) {key : String}
    (multi : (key, t) ∈ Keyword.multiValued) (declares : s.get? key = some ⟨.multi, t⟩)
    {values : List Json} (filled : values ≠ []) {single : Json → Check}
    (alone : ∀ v ∈ values, s.GivesAlone host d key v (single v)) :
    ∃ check, s.checksUnder host (d.insert key (.array values)) key = [check] ∧
      (∀ e g, ∃ holds : Json → Bool,
        (∀ v ∈ values, ((single v).test.run e g).1 = .ok (holds v)) ∧
          (check.test.run e g).1 = .ok (values.any holds)) ∧
      ∀ others : List Json, (∀ v, v ∈ others ↔ v ∈ values) →
        ∃ check', s.checksUnder host (d.insert key (.array others)) key = [check'] ∧
          ∀ e g, check'.test.run e g = check.test.run e g := by
  obtain ⟨c, hc, rfl, every⟩ := Keyword.clause_of_multiValued _ multi
  obtain ⟨accepts, one, list⟩ := exists_accepts (List.mem_cons_of_mem _ hc) declares
    ((Condition.form_of_mem_factual c hc).disjoins (Intake.eq_every every) host (s.companionOf d c))
  obtain ⟨check, h, all⟩ := list values filled fun v hv => ⟨_, alone v hv⟩
  refine ⟨check, h, fun e g => ?_, fun others same => ?_⟩
  · exact ⟨fun v => accepts v e, fun v hv => by rw [one v _ (alone v hv)], by rw [all]⟩
  · have filled' : others ≠ [] := by
      obtain ⟨v, rest, rfl⟩ := List.exists_cons_of_ne_nil filled
      exact List.ne_nil_of_mem ((same v).2 List.mem_cons_self)
    obtain ⟨check', h', all'⟩ := list others filled' fun v hv => ⟨_, alone v ((same v).1 hv)⟩
    refine ⟨check', h', fun e g => ?_⟩
    rw [all, all']
    congr 2
    rw [Bool.eq_iff_iff, List.any_eq_true, List.any_eq_true]
    exact exists_congr fun v => and_congr_left' (same v)

/-- An offset to the block below. -/
def belowDocument : Document :=
  .ofPairs [(Keyword.blockOffset.name, .object [("y", .number (.integer (-1)))])]

theorem list_disjoins_below :
    let under (v : Json) :=
      RuleKind.spawn.declarations.checksUnder .bare (belowDocument.insert "block" v) "block"
    ∃ stone dirt either, under (.string "stone") = [stone] ∧ under (.string "dirt") = [dirt] ∧
      under (.array [.string "stone", .string "dirt"]) = [either] ∧
      ∀ e g, ∃ isStone isDirt : Bool, (stone.test.run e g).1 = .ok isStone ∧
        (dirt.test.run e g).1 = .ok isDirt ∧ (either.test.run e g).1 = .ok (isStone || isDirt) := by
  intro under
  obtain ⟨stone, hs⟩ := List.length_eq_one_iff.1
    (show (under (.string "stone")).length = 1 by decide +kernel)
  obtain ⟨dirt, hd⟩ := List.length_eq_one_iff.1
    (show (under (.string "dirt")).length = 1 by decide +kernel)
  let single (v : Json) : Check := if v.string? = some "stone" then stone else dirt
  have multi : ("block", ValueType.json) ∈ Keyword.multiValued := by decide +kernel
  have alone : ∀ v ∈ [.string "stone", .string "dirt"],
      RuleKind.spawn.declarations.GivesAlone .bare belowDocument "block" v (single v) := by
    rw [List.forall_mem_cons, List.forall_mem_singleton]
    exact ⟨⟨_, rfl, hs⟩, ⟨_, rfl, hd⟩⟩
  obtain ⟨either, he, all, -⟩ := list_disjoins RuleKind.spawn.declarations .bare belowDocument
    multi (by decide +kernel) (by simp) alone
  refine ⟨stone, dirt, either, hs, hd, he, fun e g => ?_⟩
  obtain ⟨holds, each, verdict⟩ := all e g
  exact ⟨holds (.string "stone"), holds (.string "dirt"), each _ List.mem_cons_self,
    each _ (List.mem_cons_of_mem _ List.mem_cons_self), verdict.trans (by simp)⟩

end DeclarationSet

end EventRules
