/-
An item descriptor as a condition and as a stack to be made. Both readings refuse the same texts
with the same problem, and the stack that is made satisfies the condition: its tag equals the one
asked for, since a tag that is read from a text equals itself. As a condition a descriptor without a
tag is an object that names the item, and the damage if there is one.
-/
import EventRules.Action.Compile
import EventRules.Proofs.Rule.Kind
import EventRules.Proofs.Specifier.Compact
import EventRules.Proofs.Tag.Equality

namespace EventRules

/-- The compound in a descriptor equals itself. -/
theorem Compound.same_self_of_parse? {text : String} {c : Compound}
    (h : Compound.parse? text = some c) : Compound.same c c = true := by
  obtain ⟨v, read, made⟩ := Option.bind_eq_some_iff.1 h
  exact Compound.same_self_of_ofJson (Json.every_proper_of_parse read) made

/-- A 32-bit integer as one of 64 bits is the same integer. -/
theorem Decimal.int64?_of_int32 (d : Int32) : Decimal.int64? d.toInt = some d.toInt64 :=
  Decimal.int64?_eq_some_iff.2 (Int32.toInt_toInt64 d).symm

theorem holdsIfGiven_iff {α : Type} {constraint : Option α} {holds : α → Bool} :
    holdsIfGiven constraint holds = true ↔ ∀ a ∈ constraint, holds a = true := by
  cases constraint with
  | none => exact iff_of_true rfl nofun
  | some a => simp [holdsIfGiven]

namespace ItemMatcher

open Specifier

variable {registry : Registry} {item : ResourceId} {damage : Option Int32} {tag : Option Compound}
  {s : ItemStack}

theorem test_stack_iff : (stack item damage tag).test s = true ↔
    s.item = item ∧ (∀ n ∈ damage, s.damage = n) ∧
      ∀ t ∈ tag, ∃ u ∈ s.tag, Compound.same u t = true := by
  simp only [test, Bool.and_eq_true, beq_iff_eq, holdsIfGiven_iff, and_assoc]
  refine and_congr_right fun _ => and_congr_right fun _ => forall₂_congr fun t _ => ?_
  cases s.tag <;> simp

/-! ## Two readings of a descriptor -/

/-- How the condition and the stack of one text belong together: neither is there, for the same
reason, or the stack satisfies the condition. -/
inductive Agrees : Except Problem ItemMatcher → Except Problem ItemStack → Prop
  | refused (p : Problem) : Agrees (.error p) (.error p)
  | satisfied {m : ItemMatcher} {s : ItemStack} (holds : m.test s = true) : Agrees (.ok m) (.ok s)

theorem agrees_describedStack (registry : Registry) (text : String) :
    Agrees (ofDescriptor registry text) (Action.describedStack registry text) := by
  unfold ofDescriptor Action.describedStack
  cases ItemDescriptor.parse text with
  | error _ => exact .refused _
  | ok d =>
    obtain ⟨id, damage, tag⟩ := d
    have damaged : ∀ n ∈ damage, damage.getD 0 = n := by
      rintro n ⟨⟩
      rfl
    dsimp only
    split
    · exact .refused _
    · cases tag with
      | none => exact .satisfied (test_stack_iff.2 ⟨rfl, damaged, nofun⟩)
      | some raw =>
        dsimp only
        cases parsed : Compound.parse? raw with
        | none => exact .refused _
        | some tag =>
          refine .satisfied (test_stack_iff.2 ⟨rfl, damaged, ?_⟩)
          rintro _ ⟨⟩
          exact ⟨tag, rfl, Compound.same_self_of_parse? parsed⟩

/-! ## Descriptors and objects -/

/-- Both values are taken without a report, as conditions that the same stacks satisfy. -/
def Interchangeable (registry : Registry) (v v' : Json) : Prop :=
  ∃ m m', ofJson registry v = pure (.ok m) ∧ ofJson registry v' = pure (.ok m') ∧
    ∀ s, m.test s = m'.test s

variable {id : String}

theorem ofJson_text (word : Word (fun c => c == '@' || c == '/') id)
    (known : registry.hasItem (.parse id) = true) :
    ofJson registry (.string (ItemDescriptor.text ⟨id, damage, none⟩)) =
      pure (.ok (.stack (.parse id) damage none)) := by
  have writable : (⟨id, damage, none⟩ : ItemDescriptor).Writable := ⟨word, nofun⟩
  rw [ofJson, ofDescriptor, ItemDescriptor.parse_text writable]
  simp [known]

/-- An object that names an item, and the damage if there is one. -/
def plain (id : String) : Option Int32 → List (String × Json)
  | none => [("item", .string id)]
  | some d => [("damage", .number (.integer d.toInt)), ("item", .string id)]

theorem structured_plain : structuredOfMembers item (plain id damage) =
    pure (.ok (.structured item (damage.map fun d => .equal d.toInt64) none none [] none)) := by
  cases damage with
  | none => rfl
  | some d =>
    have field : Entries.find? "damage" (plain id (some d)) =
        some (.number (.integer d.toInt)) := rfl
    have read : RangeExpr.ofJson (.number (.integer d.toInt)) = .ok (.equal d.toInt64) := by
      rw [RangeExpr.ofJson, Number.int64?, Decimal.int64?_of_int32]
    rw [structuredOfMembers, field]
    dsimp only
    rw [read]
    rfl

theorem ofJson_plain (known : registry.hasItem (.parse id) = true) :
    ofJson registry (.object (plain id damage)) = pure (.ok (.structured (.parse id)
      (damage.map fun d => .equal d.toInt64) none none [] none)) := by
  have empty : Entries.find? "empty" (plain id damage) = none := by cases damage <;> rfl
  have item : (Entries.find? "item" (plain id damage)).bind Json.string? = some id := by
    cases damage <;> rfl
  have ore : Entries.find? "ore" (plain id damage) = none := by cases damage <;> rfl
  rw [ofJson, ofMembers, empty]
  dsimp only
  rw [item]
  dsimp only
  rw [if_neg (by simp [known]), ore]
  exact structured_plain

theorem test_structured_plain : (structured item (damage.map fun d => .equal d.toInt64) none none
    [] none).test s = (stack item damage none).test s := by
  cases damage with
  | none => simp [test, holdsIfGiven]
  | some d =>
    have same : s.damage.toInt64 = d.toInt64 ↔ s.damage = d := by
      rw [← Int64.toInt_inj, Int32.toInt_toInt64, Int32.toInt_toInt64, Int32.toInt_inj]
    simp only [test, holdsIfGiven, Option.map_some, RangeExpr.test, same, Bool.and_true,
      List.all_nil, beq_eq_decide]

theorem interchangeable_plain (word : Word (fun c => c == '@' || c == '/') id)
    (known : registry.hasItem (.parse id) = true) (damage : Option Int32) :
    Interchangeable registry (.string (ItemDescriptor.text ⟨id, damage, none⟩))
      (.object (plain id damage)) :=
  ⟨_, _, ofJson_text word known, ofJson_plain known, fun _ => test_structured_plain.symm⟩

/-- A descriptor means the same as a condition and as a stack: whatever the text, both readings
refuse it with the same problem, or the stack satisfies the condition. And a known item means the
same in a descriptor and in an object, with a damage and without. -/
theorem descriptor_means_same (registry : Registry) :
    (∀ text, ∃ condition, ofJson registry (.string text) = pure condition ∧
      Agrees condition (Action.describedStack registry text)) ∧
    ∀ id, Word (fun c => c == '@' || c == '/') id → registry.hasItem (.parse id) = true →
      (∀ d : Int32, Interchangeable registry (.string (id ++ "@" ++ Decimal.text d.toInt))
        (.object [("damage", .number (.integer d.toInt)), ("item", .string id)])) ∧
      Interchangeable registry (.string id) (.object [("item", .string id)]) := by
  have written (id : String) (d : Int32) :
      ItemDescriptor.text ⟨id, some d, none⟩ = id ++ "@" ++ Decimal.text d.toInt := by
    apply String.toList_injective
    simp [ItemDescriptor.text, ItemDescriptor.endText, announced]
  have alone (id : String) : ItemDescriptor.text ⟨id, none, none⟩ = id := by
    apply String.toList_injective
    simp [ItemDescriptor.text, ItemDescriptor.endText, announced]
  refine ⟨fun text => ⟨_, rfl, agrees_describedStack registry text⟩, fun id word known => ?_⟩
  have damaged (d : Int32) := interchangeable_plain word known (some d)
  have undamaged := interchangeable_plain word known none
  simp only [written] at damaged
  rw [alone] at undamaged
  exact ⟨damaged, undamaged⟩

/-- A worn bow, with a tag that holds a fraction. -/
def wornBow : String := "bow@-3/\x7b\"Charge\": 0.5\x7d"

theorem descriptor_means_same_bow :
    (∃ m s, ofJson Host.bare.registry (.string wornBow) = pure (.ok m) ∧
      Action.describedStack Host.bare.registry wornBow = .ok s ∧ m.test s = true) ∧
    Interchangeable Host.bare.registry (.string "bow@-3")
      (.object [("damage", .number (.integer (-3))), ("item", .string "bow")]) ∧
    Interchangeable Host.bare.registry (.string "bow") (.object [("item", .string "bow")]) := by
  obtain ⟨condition, read, agrees⟩ := (descriptor_means_same Host.bare.registry).1 wornBow
  have known := (descriptor_means_same Host.bare.registry).2 "bow" (by decide) rfl
  have number : "bow" ++ "@" ++ Decimal.text (-3 : Int32).toInt = "bow@-3" := by decide +kernel
  have made : (Action.describedStack Host.bare.registry wornBow).toOption.isSome = true := by
    decide +kernel
  refine ⟨?_, number ▸ known.1 (-3), known.2⟩
  cases stack : Action.describedStack Host.bare.registry wornBow with
  | error p =>
    rw [stack] at made
    cases made
  | ok s =>
    rw [stack] at agrees
    cases agrees with
    | satisfied holds => exact ⟨_, s, read, rfl, holds⟩

end ItemMatcher

end EventRules
