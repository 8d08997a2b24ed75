/-
What goes wrong with the value of a keyword is a problem of that value: none of the readers of
descriptions and none of the clauses reports an invalid keyword, and of a missing integration only
the clause tells that asks for it.
-/
import EventRules.Proofs.Condition.Form

namespace EventRules

open Reported

/-- The problem is about something else than keywords that nothing takes. -/
def Problem.Ordinary : Problem → Prop
  | .invalidKeywords _ _ => False
  | _ => True

theorem Problem.Ordinary.ne_invalidKeywords {p : Problem} (h : p.Ordinary) (rule : RuleKind)
    (keys : List String) : p ≠ .invalidKeywords rule keys := by
  rintro rfl
  exact h

/-- The problem is about a value: not about keywords that nothing takes, and not about an integration
that is not there. -/
def Problem.OfValue : Problem → Prop
  | .invalidKeywords _ _ => False
  | .missingCapability _ _ => False
  | _ => True

theorem Problem.OfValue.ordinary {p : Problem} (h : p.OfValue) : p.Ordinary := by
  cases p with
  | invalidKeywords rule keys => exact h
  | _ => trivial

/-! ## Descriptions -/

theorem RangeExpr.failsOnly_ofJson (v : Json) : FailsOnly Problem.OfValue (ofJson v) := by
  unfold ofJson
  split
  · split <;> exact failsOnly_ok _
  · split
    · exact failsOnly_ok _
    · exact failsOnly_error trivial
  · exact failsOnly_error trivial

mutual

theorem TagEntry.failsOnly_matcher : ∀ e : TagEntry, FailsOnly Problem.OfValue e.matcher
  | .mk tag value (some nested) => by
    rw [TagEntry.matcher]
    exact failsOnly_bind (failsOnly_matchers nested) fun _ _ => failsOnly_ok _
  | .mk tag (some v) none => by
    rw [TagEntry.matcher]
    exact failsOnly_bind (RangeExpr.failsOnly_ofJson v) fun _ _ => failsOnly_ok _
  | .mk tag none none => by
    rw [TagEntry.matcher]
    exact failsOnly_error trivial
termination_by structural e => e

theorem TagEntry.failsOnly_matchers :
    ∀ es : List TagEntry, FailsOnly Problem.OfValue (TagEntry.matchers es)
  | [] => by
    rw [TagEntry.matchers]
    exact failsOnly_ok _
  | e :: rest => by
    rw [TagEntry.matchers]
    exact failsOnly_bind (failsOnly_matcher e) fun _ _ =>
      failsOnly_bind (failsOnly_matchers rest) fun _ _ => failsOnly_ok _
termination_by structural es => es

end

theorem TagMatcher.failsOnly_listOfJson (v : Json) :
    FailsOnly Problem.OfValue (listOfJson v) := by
  unfold listOfJson
  split
  · split
    · exact TagEntry.failsOnly_matchers _
    · exact failsOnly_error trivial
  · exact failsOnly_error trivial

theorem ItemMatcher.failsOnly_ofDescriptor (registry : Registry) (text : String) :
    FailsOnly Problem.OfValue (ofDescriptor registry text) := by
  unfold ofDescriptor
  split
  · exact failsOnly_error trivial
  · dsimp only
    split
    · exact failsOnly_error trivial
    · split
      · exact failsOnly_ok _
      · split
        · exact failsOnly_ok _
        · exact failsOnly_error trivial

namespace ItemMatcher

theorem only_constraint {α : Type} {read : Json → Except Problem α}
    (h : ∀ v, FailsOnly Problem.OfValue (read v)) (members : List (String × Json))
    (name : String) : Only Problem.OfValue (constraint read members name) := by
  unfold constraint
  split
  · exact only_pure _
  · exact only_ofExcept (h _)

theorem refusesOnly_structuredOfMembers (item : ResourceId) (members : List (String × Json)) :
    RefusesOnly Problem.OfValue (structuredOfMembers item members) := by
  unfold structuredOfMembers
  dsimp only
  split
  · rename_i p h
    refine refusesOnly_pure (failsOnly_error ?_)
    split at h
    · cases h
    · exact failsOnly_map _ (RangeExpr.failsOnly_ofJson _) p h
  · exact refusesOnly_bind (only_constraint RangeExpr.failsOnly_ofJson _ _) <|
      refusesOnly_bind (only_constraint RangeExpr.failsOnly_ofJson _ _) <|
        refusesOnly_bind (only_constraint TagMatcher.failsOnly_listOfJson _ _) <|
          refusesOnly_pure (failsOnly_ok _)

theorem refusesOnly_ofMembers (registry : Registry) (members : List (String × Json)) :
    RefusesOnly Problem.OfValue (ofMembers registry members) := by
  unfold ofMembers
  dsimp only
  split
  · split
    · exact refusesOnly_pure (failsOnly_ok _)
    · exact refusesOnly_pure (failsOnly_error trivial)
  · split
    · exact refusesOnly_pure (failsOnly_error trivial)
    · split
      · exact refusesOnly_pure (failsOnly_error trivial)
      · split
        · exact refusesOnly_bind (only_warn trivial) (refusesOnly_pure (failsOnly_ok _))
        · exact refusesOnly_structuredOfMembers _ _

theorem refusesOnly_ofJson (registry : Registry) (v : Json) :
    RefusesOnly Problem.OfValue (ofJson registry v) := by
  unfold ofJson
  split
  · exact refusesOnly_pure (failsOnly_ofDescriptor _ _)
  · exact refusesOnly_ofMembers _ _
  · exact refusesOnly_pure (failsOnly_error trivial)

theorem only_listOfJson (registry : Registry) :
    ∀ vs : List Json, Only Problem.OfValue (listOfJson registry vs)
  | [] => only_pure _
  | v :: rest => by
    rw [listOfJson]
    exact only_bind (only_orReport (refusesOnly_ofJson registry v))
      (only_bind (only_listOfJson registry rest) (only_pure _))

end ItemMatcher

namespace BlockMatcher

theorem failsOnly_knownBlock (registry : Registry) (name : String) :
    FailsOnly Problem.OfValue (knownBlock registry name) := by
  unfold knownBlock
  dsimp only
  split
  · exact failsOnly_ok _
  · exact failsOnly_error trivial

theorem refusesOnly_identityOfMembers (registry : Registry) (members : List (String × Json))
    {refused : Problem} (h : refused.OfValue) :
    RefusesOnly Problem.OfValue (identityOfMembers registry members refused) := by
  unfold identityOfMembers
  split
  · exact refusesOnly_bind (only_warn trivial) (refusesOnly_pure (failsOnly_ok _))
  · split
    · exact refusesOnly_pure (failsOnly_ok _)
    · apply refusesOnly_pure
      split
      · refine failsOnly_bind (failsOnly_knownBlock _ _) fun _ _ => ?_
        split
        · exact failsOnly_ok _
        · split
          · exact failsOnly_ok _
          · exact failsOnly_error h
      · exact failsOnly_error h

theorem failsOnly_sideOfMembers (members : List (String × Json)) :
    FailsOnly Problem.OfValue (sideOfMembers members) := by
  unfold sideOfMembers
  split
  · exact failsOnly_ok _
  · dsimp only
    split
    · exact failsOnly_ok _
    · exact failsOnly_error trivial

theorem only_contentsOfMembers (registry : Registry) (members : List (String × Json)) :
    Only Problem.OfValue (contentsOfMembers registry members) := by
  unfold contentsOfMembers
  split
  · exact only_pure _
  · exact only_bind (ItemMatcher.only_listOfJson _ _) (only_pure _)

theorem refusesOnly_ofMembers (registry : Registry) (members : List (String × Json)) :
    RefusesOnly Problem.OfValue (ofMembers registry members) := by
  unfold ofMembers
  dsimp only
  obtain ⟨reports, refusal⟩ := refusesOnly_identityOfMembers registry members
    (show (Problem.badBlockDescription (Json.object members).print).OfValue from trivial)
  refine refusesOnly_bind reports ?_
  split
  · rename_i p h
    exact refusesOnly_pure (failsOnly_error (refusal p h))
  · split
    · rename_i p h
      exact refusesOnly_pure (failsOnly_error (failsOnly_sideOfMembers members p h))
    · exact refusesOnly_bind (ItemMatcher.only_constraint RangeExpr.failsOnly_ofJson _ _) <|
        refusesOnly_bind (only_contentsOfMembers _ _) <| refusesOnly_pure (failsOnly_ok _)

theorem refusesOnly_ofJson (registry : Registry) (v : Json) :
    RefusesOnly Problem.OfValue (ofJson registry v) := by
  unfold ofJson
  split
  · split
    · exact refusesOnly_bind (only_warn trivial) (refusesOnly_pure (failsOnly_ok _))
    · exact refusesOnly_pure (failsOnly_map _ (failsOnly_knownBlock _ _))
  · exact refusesOnly_ofMembers _ _
  · exact refusesOnly_pure (failsOnly_error trivial)

end BlockMatcher

theorem BlockOffset.failsOnly_ofJson (v : Json) : FailsOnly Problem.OfValue (ofJson v) := by
  unfold ofJson
  dsimp only
  split
  · exact failsOnly_ok _
  · exact failsOnly_error trivial

namespace CountInfo

theorem failsOnly_knownEntity (registry : Registry) (name : String) :
    FailsOnly Problem.OfValue (knownEntity registry name) := by
  unfold knownEntity
  dsimp only
  split
  · exact failsOnly_ok _
  · exact failsOnly_error trivial

theorem failsOnly_ofFields (registry : Registry) (amount : Double) (f : Fields) :
    FailsOnly Problem.OfValue (ofFields registry amount f) := by
  unfold ofFields
  dsimp only
  split
  · exact failsOnly_error trivial
  · exact failsOnly_bind (failsOnly_mapM (failsOnly_knownEntity _) _) fun _ _ => failsOnly_ok _

theorem failsOnly_ofJson (registry : Registry) (v : Json) :
    FailsOnly Problem.OfValue (ofJson registry v) := by
  unfold ofJson
  split
  · exact failsOnly_ok _
  · split
    · exact failsOnly_error trivial
    · exact failsOnly_bind (failsOnly_mapM (failsOnly_knownEntity _) _) fun _ _ => failsOnly_ok _
  · split
    · exact failsOnly_error trivial
    · exact failsOnly_ofFields _ _ _
  · exact failsOnly_error trivial

end CountInfo

/-! ## Clauses -/

namespace Condition

theorem failsOnly_weatherNamed (name : String) :
    FailsOnly Problem.OfValue (weatherNamed name) := by
  unfold weatherNamed
  dsimp only
  split
  · exact failsOnly_ok _
  · split
    · exact failsOnly_ok _
    · exact failsOnly_error trivial

theorem failsOnly_difficultyNamed (name : String) :
    FailsOnly Problem.OfValue (difficultyNamed name) := by
  unfold difficultyNamed
  split
  · exact failsOnly_ok _
  · exact failsOnly_error trivial

theorem failsOnly_everyDays (n : Int32) : FailsOnly Problem.OfValue (everyDays n) := by
  unfold everyDays
  split
  · exact failsOnly_ok _
  · exact failsOnly_error trivial

theorem failsOnly_stateTest (text : String) (current : String → Event → Option String) :
    FailsOnly Problem.OfValue (stateTest text current) := by
  unfold stateTest
  split
  · exact failsOnly_ok _
  · exact failsOnly_error trivial

theorem refusesOnly_blockMatchers (registry : Registry) :
    ∀ vs : List Json, RefusesOnly Problem.OfValue (blockMatchers registry vs)
  | [] => refusesOnly_pure (failsOnly_ok _)
  | v :: rest => by
    rw [blockMatchers]
    obtain ⟨reports, refusal⟩ := BlockMatcher.refusesOnly_ofJson registry v
    refine refusesOnly_bind reports ?_
    split
    · rename_i p h
      exact refusesOnly_pure (failsOnly_error (refusal p h))
    · obtain ⟨reports, refusal⟩ := refusesOnly_blockMatchers registry rest
      refine refusesOnly_bind reports ?_
      split
      · rename_i p h
        exact refusesOnly_pure (failsOnly_error (refusal p h))
      · exact refusesOnly_pure (failsOnly_ok _)

theorem only_blockTest (registry : Registry) (descriptions : List Json) (offset : Option Json) :
    Only Problem.OfValue (blockTest registry descriptions offset) := by
  unfold blockTest
  dsimp only
  split
  · rename_i p h
    refine only_bind (only_error ?_) (only_pure _)
    split at h
    · cases h
    · exact BlockOffset.failsOnly_ofJson _ p h
  · exact only_bind (only_orReport (refusesOnly_blockMatchers _ _)) (only_pure _)

theorem only_biomesOfTypes (registry : Registry) :
    ∀ names : List String, Only Problem.OfValue (biomesOfTypes registry names)
  | [] => only_pure _
  | name :: rest => by
    rw [biomesOfTypes]
    split
    · exact only_bind (only_biomesOfTypes registry rest) (only_pure _)
    · exact only_bind (only_error trivial) (only_biomesOfTypes registry rest)

theorem only_knownSpecies (registry : Registry) :
    ∀ names : List String, Only Problem.OfValue (knownSpecies registry names)
  | [] => only_pure _
  | name :: rest => by
    rw [knownSpecies]
    exact only_bind (only_ofExcept (CountInfo.failsOnly_knownEntity _ _))
      (only_bind (only_knownSpecies registry rest) (only_pure _))

theorem only_itemsTest (registry : Registry) (descriptions : List Json)
    (holds : List ItemMatcher → Event → Bool) :
    Only Problem.OfValue (itemsTest registry descriptions holds) :=
  only_bind (ItemMatcher.only_listOfJson _ _) (only_pure _)

end Condition

/-- What a clause of one of the forms builds reports problems of its value. -/
theorem Clause.Form.only_build {c : Clause} (form : c.Form) (host : Host)
    (input : c.intake.Carrier) (companion : Option Json) :
    Only Problem.OfValue (c.build host input companion) := by
  cases form with
  | single key holds => exact only_pure _
  | oneOf key read subject => exact only_pure _
  | weather => exact only_bind (only_ofExcept (Condition.failsOnly_weatherNamed _)) (only_pure _)
  | difficulty =>
    exact only_bind (only_ofExcept (Condition.failsOnly_difficultyNamed _)) (only_pure _)
  | everyDays => exact only_bind (only_ofExcept (Condition.failsOnly_everyDays _)) (only_pure _)
  | state key current =>
    exact only_bind (only_ofExcept (Condition.failsOnly_stateTest _ _)) (only_pure _)
  | integrated capability key holds => exact only_pure _
  | block => exact Condition.only_blockTest _ _ _
  | biome => exact only_pure _
  | biomeType => exact only_bind (Condition.only_biomesOfTypes _ _) (only_pure _)
  | equipment key slots => exact Condition.only_itemsTest _ _ _
  | bauble key slot => exact Condition.only_itemsTest _ _ _
  | mob => exact only_bind (Condition.only_knownSpecies _ _) (only_pure _)
  | count passes bound =>
    exact only_bind (only_ofExcept (CountInfo.failsOnly_ofJson _ _)) (only_pure _)

namespace Condition

variable {c : Clause} {host : Host}

/-- What a clause of the catalogue builds reports problems of its value. -/
theorem only_build (hc : c ∈ catalogue) (host : Host) (input : c.intake.Carrier)
    (companion : Option Json) : Only Problem.OfValue (c.build host input companion) := by
  rcases List.mem_cons.1 hc with rfl | hc
  · exact only_pure _
  · exact (form_of_mem_factual c hc).only_build host input companion

/-- So does its check, if the integration it needs is there. -/
theorem only_check_of_supported (hc : c ∈ catalogue) (supported : c.lacking host = none)
    (m : AttributeMap) : Only Problem.OfValue (c.check host m) := by
  unfold Clause.check
  split
  · exact only_pure _
  · rw [Clause.test_of_supported supported]
    exact only_bind (only_build hc host _ _) (only_pure _)

theorem only_check (hc : c ∈ catalogue) (host : Host) (m : AttributeMap) :
    Only Problem.Ordinary (c.check host m) := by
  rcases lacking : c.lacking host with _ | capability
  · exact (only_check_of_supported hc lacking m).imp fun _ => Problem.OfValue.ordinary
  · unfold Clause.check
    split
    · exact only_pure _
    · rw [Clause.test_of_lacking lacking]
      exact only_bind (only_bind (only_warn trivial) (only_pure _)) (only_pure _)

/-- What the conditions of a document report is ordinary. -/
theorem only_checks (host : Host) (m : AttributeMap) : Only Problem.Ordinary (checks host m) := by
  intro report hm
  rw [checks, reports_checksBy] at hm
  obtain ⟨c, hc, hm⟩ := List.mem_flatMap.1 hm
  exact only_check hc host m report hm

end Condition

end EventRules
