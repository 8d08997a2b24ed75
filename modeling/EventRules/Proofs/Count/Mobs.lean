/-
Objects with an amount and mobs and no other field: they contradict nothing, so they are refused for
an unknown mob only, and else count the species that the mobs name.
-/
import EventRules.Proofs.Count.Description

namespace EventRules.CountInfo

/-- An object with an amount and a value for the mobs. -/
def ofMobs (amount : Number) (mobs : Json) : Description :=
  .ofPairs [("amount", .number amount), ("mob", mobs)]

/-- An object with an amount and a list of mobs. -/
def listing (amount : Number) (names : List String) : Description :=
  ofMobs amount (.array (names.map .string))

/-- The species that mobs name, each as often as it is named. -/
def speciesNamed (names : List String) : List ResourceId := names.map .parse

variable {registry : Registry} {mobs : Json} {names : List String}

/-! ## Fields -/

theorem entries_ofMobs (amount : Number) (mobs : Json) :
    (ofMobs amount mobs).entries = [("amount", .number amount), ("mob", mobs)] := by
  have named : "amount" ≠ "mob" := by decide
  have later : ¬"mob" < "amount" := by decide
  simp only [ofMobs, Dict.ofPairs, Entries.ofPairs, List.foldl_cons, List.foldl_nil, Entries.insert,
    if_neg named, if_neg later]

theorem mobs_listing (amount : Number) (names : List String) :
    (listing amount names).mobs = names := by
  rw [Description.mobs, Description.member, Dict.get?, listing, entries_ofMobs]
  exact Description.namesIn_array names

theorem mobField_array (names : List String) :
    mobField (.array (names.map .string)) = .ok names := by
  have read : (names.map Json.string).mapM Json.string? = some names :=
    mapM_string?_eq_some_iff.2 rfl
  simp only [mobField, read]

theorem ofObject_ofMobs (amount : Number) (read : mobField mobs = .ok names) :
    Fields.ofObject (ofMobs amount mobs).entries =
      .ok (amount.toDouble, { amount := some amount.toDouble, mobs := names }) := by
  have first : Fields.read {} "amount" (.number amount) =
      .ok { amount := some amount.toDouble } := rfl
  have second : Fields.read { amount := some amount.toDouble } "mob" mobs =
      .ok { amount := some amount.toDouble, mobs := names } := by
    rw [Fields.read, read]
    rfl
  refine Description.ofObject_eq_ok_iff.2 ⟨?_, rfl⟩
  simp only [entries_ofMobs, Fields.ofMembers, first, second, bind, Except.bind]

/-! ## Conditions -/

/-- The mobs must be known, and then their species are counted. -/
theorem ofJson_ofMobs (registry : Registry) (amount : Number) (read : mobField mobs = .ok names) :
    ofJson registry (.object (ofMobs amount mobs).entries) =
      (names.mapM (knownEntity registry)).map fun ids =>
        { amount := amount.toDouble.toInt32, species := ids } := by
  simp only [ofJson, ofObject_ofMobs amount read]
  exact bind_pure_comp _ _

theorem ofJson_listing (known : ∀ name ∈ names, registry.hasEntity (.parse name) = true)
    (amount : Number) :
    ofJson registry (.object (listing amount names).entries) =
      .ok { amount := amount.toDouble.toInt32, species := speciesNamed names } := by
  rw [listing, ofJson_ofMobs registry amount (mobField_array names),
    Description.mapM_knownEntity_eq_ok_iff.2 ⟨known, rfl⟩]
  rfl

end EventRules.CountInfo
