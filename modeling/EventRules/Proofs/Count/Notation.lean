/-
The notations of a count against one another. An amount of 32 bits is exact as a number of JSON, as a
text and as a field of an object; a mob means the same behind the comma of a text, as a field and as
the only one of a list, and where it is not known each of the three is refused for it.
-/
import EventRules.Proofs.Binary.Integer
import EventRules.Proofs.Count.Current
import EventRules.Proofs.Count.Mobs
import EventRules.Proofs.Specifier.Compact
import EventRules.Proofs.Specifier.Equality

namespace EventRules

/-- A number that stands for an integer of 32 bits is taken for it, however it is written. -/
theorem Number.toInt32_toDouble {x : Number} {n : Int32}
    (written : x.value? = some (n.toInt : ℚ)) : x.toDouble.toInt32 = n := by
  cases x with
  | integer k =>
    have same : k = n.toInt := by exact_mod_cast Option.some.inj written
    have low := n.le_toInt
    have high := n.toInt_lt
    have small : n.toInt.natAbs < 2 ^ 53 := by omega
    rw [same]
    exact Binary.toInt32_of_value (Binary.value?_ofInt small (by decide) (by decide))
  | float x => exact Binary.toInt32_of_value written

namespace CountInfo

variable {registry : Registry}

theorem ofJson_text {s : CountSpecifier} (h : s.Writable) :
    ofJson registry (.string s.text) =
      (s.mob.toList.mapM (knownEntity registry)).map fun ids =>
        { amount := s.amount, species := ids } := by
  simp only [ofJson, CountSpecifier.parse_text h]
  exact bind_pure_comp _ _

theorem text_amount (n : Int32) : (CountSpecifier.text ⟨n, none⟩) = Decimal.text n.toInt := by
  rw [CountSpecifier.text, Specifier.announced, List.append_nil, Decimal.text]

theorem text_amount_mob (n : Int32) (mob : String) :
    CountSpecifier.text ⟨n, some mob⟩ = Decimal.text n.toInt ++ "," ++ mob := by
  rw [← String.toList_inj, CountSpecifier.text]
  simp [Specifier.announced, Decimal.text]

/-- An amount of a mob, which must be known. -/
def ofMob (registry : Registry) (n : Int32) (mob : String) : Except Problem CountInfo :=
  (knownEntity registry mob).map fun id => { amount := n, species := [id] }

theorem map_mapM_singleton (registry : Registry) (n : Int32) (mob : String) :
    (([mob].mapM (knownEntity registry)).map fun ids => { amount := n, species := ids }) =
      ofMob registry n mob := by
  rw [ofMob, List.mapM_cons]
  rcases knownEntity registry mob with p | id
  · rfl
  · rfl

/-- An amount alone is the same condition as a number, as a text and as an object. An amount of a mob
is the same condition as a text and as an object, with the mob alone or in a list, or it is refused
for the same reason. -/
theorem notations_agree (registry : Registry) {x : Number} {n : Int32}
    (written : x.value? = some (n.toInt : ℚ)) :
    (ofJson registry (.number x) = .ok { amount := n } ∧
      ofJson registry (.string (Decimal.text n.toInt)) = .ok { amount := n } ∧
      ofJson registry (.object [("amount", .number x)]) = .ok { amount := n }) ∧
    ∀ mob : String, Text.Bare mob.toList →
      ofJson registry (.string (Decimal.text n.toInt ++ "," ++ mob)) = ofMob registry n mob ∧
      ofJson registry (.object (ofMobs x (.string mob)).entries) = ofMob registry n mob ∧
      ofJson registry (.object (listing x [mob]).entries) = ofMob registry n mob := by
  have amount : x.toDouble.toInt32 = n := Number.toInt32_toDouble written
  refine ⟨⟨?_, ?_, ?_⟩, fun mob bare => ⟨?_, ?_, ?_⟩⟩
  · rw [ofJson, amount]
  · rw [← text_amount, ofJson_text ⟨fun _ there => by cases there⟩]
    rfl
  · rw [← amount]
    rfl
  · rw [← text_amount_mob, ofJson_text ⟨by rintro _ ⟨⟩; exact bare⟩]
    exact map_mapM_singleton registry n mob
  · have read : mobField (.string mob) = .ok [mob] := rfl
    rw [ofJson_ofMobs registry x read, amount]
    exact map_mapM_singleton registry n mob
  · rw [listing, ofJson_ofMobs registry x (mobField_array [mob]), amount]
    exact map_mapM_singleton registry n mob

theorem notations_agree_cow :
    ofJson Host.bare.registry (.string "-2147483648") = .ok { amount := Int32.minValue } ∧
      ofJson Host.bare.registry (.object [("amount", .number (.integer (-2147483648)))]) =
        .ok { amount := Int32.minValue } ∧
      ofJson Host.bare.registry (.string "-2147483648,minecraft:cow") =
        .ok { amount := Int32.minValue, species := [.parse "minecraft:cow"] } ∧
      ofJson Host.bare.registry (.object [("amount", .number (.integer (-2147483648))),
          ("mob", .string "minecraft:cow")]) =
        .ok { amount := Int32.minValue, species := [.parse "minecraft:cow"] } := by
  have written : (Number.integer (-2147483648)).value? = some (Int32.minValue.toInt : ℚ) := by
    rw [Int32.toInt_minValue]
    norm_num [Number.value?]
  have ⟨⟨_, text, object⟩, agree⟩ := notations_agree Host.bare.registry written
  have ⟨mobText, mobObject, _⟩ := agree "minecraft:cow" (by decide)
  rw [entries_ofMobs] at mobObject
  exact ⟨text, object, mobText, mobObject⟩

end CountInfo

end EventRules
