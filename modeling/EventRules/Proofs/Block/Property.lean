/-
A block with listed properties, as a condition. The list goes through the default state entry by
entry: an entry whose name the state declares overwrites the value, and any other leaves the state
as it is. So each declared property has the value that is listed for it last, or else its default
value, and nothing else is declared or asked for.
-/
import EventRules.Block.Matcher
import EventRules.Proofs.Dict
import EventRules.Proofs.Problem
import EventRules.Proofs.Rule.Kind
import Mathlib.Data.List.Forall2

namespace EventRules

/-! ## States -/

namespace BlockState

variable {s t : BlockState} {name : String}

/-- States of one block with the same properties are the same. -/
theorem ext_property? (block : s.block = t.block)
    (properties : ∀ name, s.property? name = t.property? name) : s = t := by
  obtain ⟨b, p⟩ := s
  obtain ⟨c, q⟩ := t
  obtain rfl : b = c := block
  rw [show p = q from Dict.ext_get? properties]

theorem block_override (s : BlockState) (name value : String) :
    (s.override name value).block = s.block := by
  unfold override
  split <;> rfl

/-- Overwriting a property changes its value if it is declared, and nothing else. -/
theorem property?_override (s : BlockState) (key value : String) :
    (s.override key value).property? name =
      (s.property? name).map fun old => if key = name then value else old := by
  unfold override
  split
  · rename_i declared
    obtain ⟨old, there⟩ := Option.isSome_iff_exists.1 declared
    show (s.properties.insert key value).get? name = _
    rw [Dict.get?_insert]
    split
    · rename_i same
      subst same
      rw [property?, there, Option.map_some]
    · exact Option.map_id'.symm
  · rename_i undeclared
    by_cases same : key = name
    · subst same
      have absent : s.property? key = none := by
        simpa [Dict.contains, property?] using undeclared
      rw [absent, Option.map_none]
    · simp [same]

/-- The value that is listed last for a name. -/
def lastOf (name : String) (properties : List (String × String)) : Option String :=
  Entries.find? name properties.reverse

theorem lastOf_cons (p : String × String) (rest : List (String × String)) :
    lastOf name (p :: rest) = (lastOf name rest).or (if p.1 = name then some p.2 else none) := by
  unfold lastOf
  rw [List.reverse_cons, Entries.find?_append]
  rfl

/-- The state with listed properties in place of its own. -/
def overrideAll (s : BlockState) (properties : List (String × String)) : BlockState :=
  properties.foldl (fun s p => s.override p.1 p.2) s

theorem block_overrideAll (properties : List (String × String)) :
    (s.overrideAll properties).block = s.block := by
  unfold overrideAll
  induction properties generalizing s with
  | nil => rfl
  | cons p rest ih => rw [List.foldl_cons, ih, block_override]

/-- A declared property has the value listed last, or its own if none is listed. -/
theorem property?_overrideAll (properties : List (String × String)) :
    (s.overrideAll properties).property? name =
      (s.property? name).map fun own => (lastOf name properties).getD own := by
  unfold overrideAll
  induction properties generalizing s with
  | nil => exact Option.map_id'.symm
  | cons p rest ih =>
    rw [List.foldl_cons, ih, property?_override, Option.map_map]
    refine congrArg (Option.map · _) (funext fun own => ?_)
    rw [lastOf_cons]
    cases lastOf name rest with
    | some v => rfl
    | none =>
      show (if p.1 = name then p.2 else own) = _
      split <;> rfl

/-- What is listed for names that are not declared makes no difference. -/
theorem overrideAll_filter (properties : List (String × String)) :
    s.overrideAll (properties.filter fun p => (s.property? p.1).isSome) =
      s.overrideAll properties := by
  refine ext_property? (by rw [block_overrideAll, block_overrideAll]) fun name => ?_
  rw [property?_overrideAll, property?_overrideAll]
  cases declared : s.property? name with
  | none => rfl
  | some own =>
    have kept : lastOf name (properties.filter fun p => (s.property? p.1).isSome) =
        lastOf name properties := by
      unfold lastOf
      rw [← List.filter_reverse, Entries.find?_filter fun key => (s.property? key).isSome, declared]
      rfl
    rw [kept]

end BlockState

/-! ## Descriptions -/

namespace BlockMatcher

open BlockState

variable {registry : Registry} {name : String} {listed : List Json}
  {properties : List (String × String)}

/-- How a property is written: by the names of its fields, or by their order. -/
inductive Spells : Json → String × String → Prop
  | named {members : List (String × Json)} {name value : String}
    (name_given : Entries.find? "name" members = some (.string name))
    (value_given : Entries.find? "value" members = some (.string value)) :
    Spells (.object members) (name, value)
  | ordered (name value : String) : Spells (.array [.string name, .string value]) (name, value)

theorem propertyOfJson_of_spells {v : Json} {p : String × String} (h : Spells v p) :
    propertyOfJson v = some p := by
  cases h with
  | named name_given value_given =>
    simp [propertyOfJson, Json.record?, name_given, value_given, Json.string?]
  | ordered name value => rfl

theorem propertiesOfJson_of_spells (h : List.Forall₂ Spells listed properties) :
    propertiesOfJson (.array listed) = some properties := by
  show listed.mapM propertyOfJson = _
  induction h with
  | nil => rfl
  | cons first _ ih => rw [List.mapM_cons, propertyOfJson_of_spells first, ih]; rfl

/-- The description of a block with listed properties. -/
def constrained (name : String) (listed : List Json) : Json :=
  .object [("block", .string name), ("properties", .array listed)]

theorem ofJson_constrained (known : registry.hasBlock (.parse name) = true)
    (h : List.Forall₂ Spells listed properties) :
    ofJson registry (constrained name listed) = pure (.ok
      { identity := .state (constrainedState registry (.parse name) properties) }) := by
  have block : knownBlock registry name = .ok (.parse name) := if_pos known
  have read := propertiesOfJson_of_spells h
  have identity (refused : Problem) : identityOfMembers registry
      [("block", .string name), ("properties", .array listed)] refused =
      pure (.ok (.state (constrainedState registry (.parse name) properties))) := by
    simp [identityOfMembers, Entries.find?, Json.string?, block, read, bind, Except.bind, pure,
      Except.pure]
  show ofMembers registry _ = _
  unfold ofMembers
  dsimp only
  rw [identity]
  rfl

/-- The default state of a block, or the block without properties if it has none. -/
def startState (registry : Registry) (block : ResourceId) : BlockState :=
  (registry.defaultState block).getD (.plain block)

/-- The default value of a property, if the block declares it. -/
def defaultValue? (registry : Registry) (block : ResourceId) (property : String) : Option String :=
  (registry.defaultState block).bind (·.property? property)

theorem property?_startState (registry : Registry) (block : ResourceId) (property : String) :
    (startState registry block).property? property = defaultValue? registry block property := by
  unfold startState defaultValue?
  cases registry.defaultState block <;> rfl

/-- Entries for properties that the block does not declare make no difference. -/
theorem constrainedState_filter (registry : Registry) (block : ResourceId)
    (properties : List (String × String)) :
    constrainedState registry block
        (properties.filter fun p => (defaultValue? registry block p.1).isSome) =
      constrainedState registry block properties := by
  simp only [← property?_startState]
  exact overrideAll_filter (s := startState registry block) properties

theorem test_state_iff {expected : BlockState} {w : World} {p : BlockPos} :
    test { identity := .state expected } w p = true ↔ w.block p = some expected := by
  rw [test]
  cases w.block p <;> simp [BlockIdentity.test, holdsIfGiven]

/-- The state a description asks for is the only one in which every declared property has the value
that is listed for it last, or else its default value, and in which no other is declared. -/
theorem eq_constrainedState_iff
    (owned : ∀ s, registry.defaultState (.parse name) = some s → s.block = .parse name)
    {s : BlockState} :
    s = constrainedState registry (.parse name) properties ↔
      s.block = .parse name ∧ ∀ property, s.property? property =
        (defaultValue? registry (.parse name) property).map fun own =>
          (lastOf property properties).getD own := by
  have block : (startState registry (.parse name)).block = .parse name := by
    unfold startState
    cases default : registry.defaultState (.parse name) with
    | none => rfl
    | some s => exact owned s default
  have made : constrainedState registry (.parse name) properties =
      (startState registry (.parse name)).overrideAll properties := rfl
  rw [made]
  constructor
  · rintro rfl
    exact ⟨by rw [block_overrideAll, block], fun property => by
      rw [property?_overrideAll, property?_startState]⟩
  · rintro ⟨same, properties⟩
    exact ext_property? (by rw [block_overrideAll, block, same]) fun property => by
      rw [property?_overrideAll, property?_startState, properties]

/-- A description of a known block with listed properties is satisfied by exactly the states of the
block in which every property that its default state declares has the value listed last, or its
default value if none is listed, and in which there is no other property. A list with the same
entries for the declared properties describes the same condition. -/
theorem properties_override_defaults
    (owned : ∀ s, registry.defaultState (.parse name) = some s → s.block = .parse name)
    (known : registry.hasBlock (.parse name) = true)
    (spelled : List.Forall₂ Spells listed properties) :
    ∃ m, ofJson registry (constrained name listed) = pure (.ok m) ∧
      (∀ w p, m.test w p = true ↔ ∃ s, w.block p = some s ∧ s.block = .parse name ∧
        ∀ property, s.property? property =
          (defaultValue? registry (.parse name) property).map fun own =>
            (lastOf property properties).getD own) ∧
      ∀ (other : List Json) (others : List (String × String)), List.Forall₂ Spells other others →
        others.filter (fun p => (defaultValue? registry (.parse name) p.1).isSome) =
          properties.filter (fun p => (defaultValue? registry (.parse name) p.1).isSome) →
        ofJson registry (constrained name other) = pure (.ok m) := by
  refine ⟨_, ofJson_constrained known spelled, fun w p => ?_, fun other others spelled' same => ?_⟩
  · rw [test_state_iff]
    constructor
    · intro there
      exact ⟨_, there, (eq_constrainedState_iff owned).1 rfl⟩
    · rintro ⟨s, there, matching⟩
      rw [there, (eq_constrainedState_iff owned).2 matching]
  · rw [ofJson_constrained known spelled', ← constrainedState_filter registry _ others, same,
      constrainedState_filter]

/-- A game in which a furnace faces north by default and is not lit. -/
def furnaceRegistry : Registry :=
  { Host.bare.registry with
    defaultState := fun block =>
      some (((BlockState.plain block).withProperty "facing" "north").withProperty "lit" "false") }

/-- A lit furnace: the first entry is overruled by the third, and the second has no effect. -/
theorem properties_override_defaults_furnace :
    let entry (name value : String) : Json := .array [.string name, .string value]
    ∃ m, ofJson furnaceRegistry (constrained "furnace"
        [entry "lit" "maybe", entry "color" "red", entry "lit" "true"]) = pure (.ok m) ∧
      ofJson furnaceRegistry (constrained "furnace" [entry "lit" "maybe", entry "lit" "true"]) =
        pure (.ok m) ∧
      ∀ w p, m.test w p = true ↔ ∃ s, w.block p = some s ∧ s.block = .parse "furnace" ∧
        ∀ property, s.property? property =
          (defaultValue? furnaceRegistry (.parse "furnace") property).map fun own =>
            (lastOf property [("lit", "maybe"), ("color", "red"), ("lit", "true")]).getD own := by
  intro entry
  have owned (s : BlockState)
      (given : furnaceRegistry.defaultState (.parse "furnace") = some s) :
      s.block = .parse "furnace" := by
    cases given
    rfl
  have known : furnaceRegistry.hasBlock (.parse "furnace") = true := rfl
  obtain ⟨m, compiled, accepted, unaffected⟩ := properties_override_defaults owned known
    (.cons (.ordered "lit" "maybe") (.cons (.ordered "color" "red")
      (.cons (.ordered "lit" "true") .nil)))
  exact ⟨m, compiled, unaffected _ _ (.cons (.ordered "lit" "maybe")
    (.cons (.ordered "lit" "true") .nil)) (by decide +kernel), accepted⟩

end BlockMatcher

end EventRules
