/-
Boolean conditions. The test for true and the test for false of one keyword are the negations of each
other on every event: also where nobody attacks, where no damage has a cause, where the entity is no
mob and where there is no season. The one exception is the question for a spawner, which both answer
with no on events where it makes no sense.
-/
import EventRules.Proofs.Condition.Given
import EventRules.Proofs.Condition.Integration
import EventRules.Proofs.Rule.Kind

namespace EventRules

/-! ## Opposite tests -/

/-- What holds for true is what does not hold for false. -/
def Opposed (holds : Bool → Event → Bool) : Prop := ∀ e, holds true e = !holds false e

/-- Comparing an answer with the value. -/
theorem opposed_beq (answer : Event → Bool) : Opposed fun b e => answer e == b := by
  intro e
  show (answer e == true) = !(answer e == false)
  cases answer e <;> rfl

/-- An answer that is not there counts as no. -/
theorem opposed_agrees (answer : Event → Option Bool) :
    Opposed fun b e => Condition.agrees (answer e) b := by
  intro e
  show Condition.agrees (answer e) true = !Condition.agrees (answer e) false
  rcases answer e with _ | _ | _ <;> rfl

/-- A clause on a boolean whose two tests are opposed. -/
inductive Clause.Toggle : Clause → Prop
  | single (key : Key .boolean) {holds : Bool → Event → Bool} (opposed : Opposed holds) :
    Toggle (.single key holds)
  | integrated (capability : Capability) (key : Key .boolean)
    {holds : Integrations → Bool → Event → Bool} (opposed : ∀ i, Opposed (holds i)) :
    Toggle (.integrated capability key fun i v => .ok (holds i v))

theorem Clause.Toggle.made {c : Clause} (toggle : c.Toggle) {host : Host} {companion : Option Json}
    (able : c.lacking host = none) :
    ∃ holds, Opposed holds ∧ ∀ b, c.made host [.bool b] companion = some (.fact (holds b)) := by
  cases toggle with
  | single key opposed => exact ⟨_, opposed, fun b => rfl⟩
  | integrated capability key opposed =>
    refine ⟨_, opposed host.integrations, fun b => ?_⟩
    exact congrArg Reported.result (@test_of_supported _ host able b companion)

namespace Condition

open Clause Keyword

/-- The clauses on a boolean: the sky, the seasons and the cities around the game stage, the nature of
the entity, and the attack between its mobs and its sources. -/
theorem filter_boolean_catalogue :
    catalogue.filter (fun c => c.intake.declaration = ⟨.single, .boolean⟩) =
      worldState.drop 9 ++ (seasonsStagesCities.take 4 ++ seasonsStagesCities.drop 5) ++
        nature ++ (attack.drop 1).take 7 := rfl

theorem toggle_seasonClause (key : Key .boolean) (season : Season) :
    (seasonClause key season).Toggle :=
  .integrated .seasons key fun i => opposed_beq fun e => i.season e.world == some season

theorem toggle_cityClause (key : Key .boolean) (inside : Integrations → Event → Bool) :
    (cityClause key inside).Toggle :=
  .integrated .lostCities key fun i => opposed_beq (inside i)

theorem toggle_damageClause (key : Key .boolean) (property : DamageSource → Bool) :
    (damageClause key property).Toggle :=
  .single key (opposed_agrees fun e => e.source.map property)

theorem toggle_or_spawner : ∀ c ∈ worldState.drop 9 ++
    (seasonsStagesCities.take 4 ++ seasonsStagesCities.drop 5) ++ nature ++ (attack.drop 1).take 7,
    c.Toggle ∨ c.keyword = spawner.name := by
  simp only [worldState, seasonsStagesCities, nature, attack, List.drop, List.take,
    List.forall_mem_append, List.forall_mem_cons]
  refine ⟨⟨⟨⟨.inl ?_, List.forall_mem_nil _⟩, ?_, ?_⟩, ?_⟩, ?_⟩
  · exact .single seeSky (opposed_beq _)
  · exact ⟨.inl (toggle_seasonClause _ _), .inl (toggle_seasonClause _ _),
      .inl (toggle_seasonClause _ _), .inl (toggle_seasonClause _ _), List.forall_mem_nil _⟩
  · exact ⟨.inl (toggle_cityClause _ _), .inl (toggle_cityClause _ _),
      .inl (toggle_cityClause _ _), .inl (toggle_cityClause _ _), List.forall_mem_nil _⟩
  · refine ⟨.inl ?_, .inl ?_, .inl ?_, .inl ?_, .inr rfl, .inl ?_, List.forall_mem_nil _⟩
    · exact .single hostile (opposed_beq _)
    · exact .single passive (opposed_beq _)
    · exact .single canSpawnHere (opposed_agrees _)
    · exact .single notColliding (opposed_agrees _)
    · exact .single inControl (opposed_beq _)
  · refine ⟨.inl ?_, .inl ?_, .inl ?_, .inl (toggle_damageClause _ _),
      .inl (toggle_damageClause _ _), .inl (toggle_damageClause _ _),
      .inl (toggle_damageClause _ _), List.forall_mem_nil _⟩
    · exact .single player (opposed_beq _)
    · exact .single realPlayer (opposed_beq _)
    · exact .single fakePlayer (opposed_beq _)

/-- A clause on a boolean, that for a spawner apart. -/
theorem toggle_of_boolean {c : Clause} (hc : c ∈ catalogue)
    (boolean : c.intake.declaration = ⟨.single, .boolean⟩) (other : c.keyword ≠ spawner.name) :
    c.Toggle := by
  have found : c ∈ catalogue.filter (fun c => c.intake.declaration = ⟨.single, .boolean⟩) :=
    List.mem_filter.2 ⟨hc, decide_eq_true boolean⟩
  rw [filter_boolean_catalogue] at found
  exact (toggle_or_spawner c found).resolve_right other

theorem spawner_mem_catalogue :
    Clause.single spawner (fun (b : Bool) e => e.fromSpawner == some b) ∈ catalogue := by
  simp only [catalogue, occasion, nature, List.mem_append, List.mem_cons, true_or, or_true]

end Condition

/-! ## Documents -/

/-- The keywords of boolean conditions, that for a spawner apart. -/
def Keyword.toggles : List (Key .boolean) :=
  [seeSky, summer, winter, spring, autumn, inCity, inStreet, inSphere, inBuilding, hostile, passive,
    canSpawnHere, notColliding, inControl, player, realPlayer, fakePlayer, explosion, projectile,
    fire, magic]

/-- Every such keyword is that of a clause on a boolean. -/
theorem Keyword.clause_of_toggle : ∀ key ∈ toggles, ∃ c ∈ Condition.catalogue,
    c.keyword = key.name ∧ c.intake.declaration = ⟨.single, .boolean⟩ ∧
      c.keyword ≠ spawner.name := by
  decide +kernel

theorem Declaration.checked_boolean (shape : Shape) (name : String) (b : Bool) :
    checked ⟨shape, .boolean⟩ name (.bool b) = .ok [.bool b] := by
  cases shape <;> rfl

namespace DeclarationSet

/-- A boolean keyword, filed in a document as true and as false, gives one check under it each time,
and on every event the two come to verdicts, that for true first, that are as they should be. -/
def Verdicts (s : DeclarationSet) (host : Host) (d : Document) (key : Key .boolean)
    (expected : Event → Bool → Bool → Prop) : Prop :=
  ∃ yes no, s.checksUnder host (d.insert key.name (.bool true)) key.name = [yes] ∧
    s.checksUnder host (d.insert key.name (.bool false)) key.name = [no] ∧
    ∀ e g, ∃ verdict verdict' : Bool, (yes.test.run e g).1 = .ok verdict ∧
      (no.test.run e g).1 = .ok verdict' ∧ expected e verdict verdict'

variable {s : DeclarationSet} {host : Host} {d : Document}

theorem verdicts_of_made {c : Clause} (hc : c ∈ Condition.catalogue) {shape : Shape}
    (declares : s.get? c.keyword = some ⟨shape, .boolean⟩) (admits : s.Admits d)
    {holds : Bool → Event → Bool}
    (made : ∀ b, c.made host [.bool b] (s.companionOf d c) = some (.fact (holds b)))
    {expected : Event → Bool → Bool → Prop} (h : ∀ e, expected e (holds true e) (holds false e)) :
    s.Verdicts host d ⟨c.keyword⟩ expected := by
  have others : s.Admits (d.erase c.keyword) := admits_erase (fun _ _ => rfl) admits
  have check (b : Bool) : s.checksUnder host (d.insert c.keyword (.bool b)) c.keyword =
      [⟨c.keyword, .fact (holds b)⟩] := (checksUnder_insert_eq_iff hc declares).2
    ⟨others, _, _, Declaration.checked_boolean shape c.keyword b, made b, rfl⟩
  exact ⟨_, _, check true, check false, fun e g => ⟨_, _, rfl, rfl, h e⟩⟩

/-- The two values of a boolean condition give one check each, and on every event exactly one of the
two passes. Of the two for a spawner exactly one passes where it is known whether a spawner causes
the event, and none elsewhere. -/
theorem toggle_verdicts (s : DeclarationSet) (host : Host) {d : Document} (admits : s.Admits d) :
    (∀ key ∈ Keyword.toggles, ∀ shape, s.get? key.name = some ⟨shape, .boolean⟩ →
      host.lacking key.name = none →
        s.Verdicts host d key fun _ yes no => yes = !no) ∧
    ∀ shape, s.get? Keyword.spawner.name = some ⟨shape, .boolean⟩ →
      s.Verdicts host d Keyword.spawner fun e yes no =>
        if e.fromSpawner.isSome then yes = !no else yes = false ∧ no = false := by
  constructor
  · rintro ⟨name⟩ toggle shape declares able
    obtain ⟨c, hc, rfl, boolean, other⟩ := Keyword.clause_of_toggle _ toggle
    rw [← Condition.lacking_of_mem_catalogue hc] at able
    obtain ⟨holds, opposed, made⟩ := (Condition.toggle_of_boolean hc boolean other).made able
    exact verdicts_of_made hc declares admits made opposed
  · intro shape declares
    refine verdicts_of_made Condition.spawner_mem_catalogue declares admits (fun b => rfl) ?_
    intro e
    rcases e.fromSpawner with _ | _ | _ <;> decide

/-- Rules that ask whether an entity is hostile and whether it comes from a spawner. -/
def cageDeclarations : DeclarationSet := empty.single Keyword.hostile |>.single Keyword.spawner

theorem toggle_verdicts_cage :
    let d : Document := .ofPairs [(Keyword.spawner.name, .bool true)]
    cageDeclarations.Verdicts .bare d Keyword.hostile (fun _ yes no => yes = !no) ∧
      cageDeclarations.Verdicts .bare d Keyword.spawner fun e yes no =>
        if e.fromSpawner.isSome then yes = !no else yes = false ∧ no = false := by
  intro d
  have verdicts := toggle_verdicts cageDeclarations .bare (attributes_ok_iff.1 ⟨_, rfl⟩ :
    cageDeclarations.Admits d)
  exact ⟨verdicts.1 Keyword.hostile (by decide) .single (by decide +kernel) (by decide +kernel),
    verdicts.2 .single (by decide +kernel)⟩

end DeclarationSet

end EventRules
