/-
Conditions on equipment, against the item conditions they are made of. The test passes for a player
who has in one of the slots a stack that is not empty and that one of the item conditions accepts.
So an empty slot never passes, not even where the condition is that the stack be empty.
-/
import EventRules.Proofs.Condition.Disjunction

namespace EventRules

/-! ## Lists of descriptions -/

namespace ItemMatcher

/-- The descriptions of a list are read as these conditions, one by one. -/
def ReadAll (registry : Registry) (descriptions : List Json) (matchers : List ItemMatcher) : Prop :=
  List.Forall₂ (fun v m => (ofJson registry v).result = .ok m) descriptions matchers

variable {registry : Registry} {descriptions : List Json} {matchers : List ItemMatcher}

theorem ReadAll.result_listOfJson (read : ReadAll registry descriptions matchers) :
    (listOfJson registry descriptions).result = matchers := by
  induction read with
  | nil => rfl
  | cons first _ ih =>
    rw [listOfJson, Reported.result_bind, Reported.result_bind, Reported.result_pure, ih,
      Reported.orReport, first]
    rfl

/-- Null describes no item. -/
theorem json?_of_read {v : Json} {m : ItemMatcher} (read : (ofJson registry v).result = .ok m) :
    ValueType.json? v = some v := by
  cases v with
  | null => cases read
  | _ => rfl

theorem ReadAll.json? (read : ReadAll registry descriptions matchers) :
    ∀ v ∈ descriptions, ValueType.json? v = some v := by
  induction read with
  | nil => exact List.forall_mem_nil _
  | cons first _ ih => exact List.forall_mem_cons.2 ⟨json?_of_read first, ih⟩

end ItemMatcher

/-! ## Slots -/

/-- The keywords of equipment with the slots that each is about. -/
def Keyword.equipmentSlots : List (Key .json × List EquipmentSlot) :=
  [(helmet, [.head]), (chestplate, [.chest]), (leggings, [.legs]), (boots, [.feet]),
    (playerHeldItem, [.mainHand]), (heldItem, [.mainHand]), (offHandItem, [.offHand]),
    (bothHandsItem, [.mainHand, .offHand])]

namespace Condition

theorem equipmentClause_mem_catalogue {key : Key .json} {slots : List EquipmentSlot}
    (h : (key, slots) ∈ Keyword.equipmentSlots) : equipmentClause key slots ∈ catalogue := by
  have listed : equipmentClause key slots ∈ equipment := by
    show _ ∈ Keyword.equipmentSlots.map fun e => equipmentClause e.1 e.2
    exact List.mem_map.2 ⟨_, h, rfl⟩
  simp only [catalogue, surroundings, List.mem_append, listed, true_or, or_true]

theorem wears_iff {matchers : List ItemMatcher} {worn : Option ItemStack} :
    wears matchers worn = true ↔
      ∃ stack, worn = some stack ∧ stack.isEmpty = false ∧ ∃ m ∈ matchers, m.test stack = true := by
  rcases worn with _ | stack
  · simp [wears]
  · simp [wears, ItemMatcher.anyAccepts]

theorem onPlayer_iff {e : Event} {holds : Player → Bool} :
    onPlayer e holds = true ↔ ∃ p, e.player = some p ∧ holds p = true := by
  unfold onPlayer
  rcases e.player with _ | p
  · simp
  · simp

/-- The test of equipment that is made of item conditions. -/
def worn (slots : List EquipmentSlot) (matchers : List ItemMatcher) (e : Event) : Bool :=
  onPlayer e fun p => slots.any fun slot => wears matchers (p.item slot)

theorem worn_iff {slots : List EquipmentSlot} {matchers : List ItemMatcher} {e : Event} :
    worn slots matchers e = true ↔ ∃ p, e.player = some p ∧ ∃ slot ∈ slots, ∃ stack,
      p.item slot = some stack ∧ stack.isEmpty = false ∧ ∃ m ∈ matchers, m.test stack = true := by
  rw [worn, onPlayer_iff]
  simp only [List.any_eq_true, wears_iff]

theorem made_equipmentClause {key : Key .json} {slots : List EquipmentSlot} {host : Host}
    {descriptions : List Json} {matchers : List ItemMatcher} {companion : Option Json}
    (read : ItemMatcher.ReadAll host.registry descriptions matchers) (filled : matchers ≠ []) :
    (equipmentClause key slots).made host descriptions companion =
      some (.fact (worn slots matchers)) := by
  have taken : descriptions.filterMap ValueType.json? = descriptions :=
    (List.filterMap_congr read.json?).trans List.filterMap_some
  rw [Clause.made_of_supported rfl]
  show (itemsTest host.registry (descriptions.filterMap ValueType.json?) _).result = _
  rw [taken, itemsTest, Reported.result_bind, read.result_listOfJson, Reported.result_pure,
    if_neg (mt List.isEmpty_iff.1 filled)]
  rfl

end Condition

/-! ## Documents -/

/-- Spawn rules declare the keywords of equipment as lists of descriptions. -/
theorem SpawnRule.declares_equipment :
    ∀ e ∈ Keyword.equipmentSlots,
      RuleKind.spawn.declarations.get? e.1.name = some ⟨.multi, .json⟩ := by
  decide +kernel

namespace DeclarationSet

open Condition

variable {s : DeclarationSet} {host : Host} {d : Document} {key : Key .json}
  {slots : List EquipmentSlot} {v : Json} {matchers : List ItemMatcher}

theorem checksUnder_equipment (equipment : (key, slots) ∈ Keyword.equipmentSlots)
    (declares : s.get? key.name = some ⟨.multi, .json⟩) (others : s.Admits (d.erase key.name))
    (read : ItemMatcher.ReadAll host.registry v.listed matchers) (filled : matchers ≠ []) :
    s.checksUnder host (d.insert key.name v) key.name =
      [⟨key.name, .fact (worn slots matchers)⟩] := by
  have accepted : ∀ w ∈ v.listed, ValueType.json.accepts w = true := by
    intro w hw
    show (ValueType.json? w).isSome = true
    rw [read.json? w hw]
    rfl
  exact (checksUnder_insert_eq_iff (equipmentClause_mem_catalogue equipment) declares).2
    ⟨others, v.listed, _, checked_multi_iff.2 ⟨rfl, accepted⟩,
      made_equipmentClause read filled, rfl⟩

/-- Item descriptions under a keyword of equipment that can all be read give one check. It comes to a
verdict on every event, and passes exactly if the player has in one of the slots of the keyword a
stack that is not empty and that the condition of one of the descriptions accepts. -/
theorem equipment_verdict (s : DeclarationSet) (host : Host) (d : Document)
    (equipment : (key, slots) ∈ Keyword.equipmentSlots)
    (declares : s.get? key.name = some ⟨.multi, .json⟩) (others : s.Admits (d.erase key.name))
    (read : ItemMatcher.ReadAll host.registry v.listed matchers) (filled : matchers ≠ []) :
    ∃ check, s.checksUnder host (d.insert key.name v) key.name = [check] ∧
      ∀ e g, check.test.Decides e g (∃ p, e.player = some p ∧ ∃ slot ∈ slots, ∃ stack,
        p.item slot = some stack ∧ stack.isEmpty = false ∧ ∃ m ∈ matchers, m.test stack = true) :=
  ⟨_, checksUnder_equipment equipment declares others read filled, fun _ g =>
    Test.decides_fact worn_iff g⟩

/-- A bow, or any stack that is not empty. -/
def bowOrAny : Json := .array [.string "minecraft:bow", .object [("empty", .bool false)]]

theorem equipment_verdict_hands :
    ∃ check, RuleKind.spawn.declarations.checksUnder .bare
        (Dict.empty.insert Keyword.bothHandsItem.name bowOrAny) Keyword.bothHandsItem.name =
          [check] ∧
      ∀ e g, check.test.Decides e g (∃ p, e.player = some p ∧
        ∃ slot ∈ [EquipmentSlot.mainHand, .offHand], ∃ stack, p.item slot = some stack ∧
          stack.isEmpty = false ∧
          ∃ m ∈ [ItemMatcher.stack ⟨"minecraft", "bow"⟩ none none, .empty false],
            m.test stack = true) := by
  have equipment : (Keyword.bothHandsItem, [.mainHand, .offHand]) ∈ Keyword.equipmentSlots := by
    decide
  have read : ItemMatcher.ReadAll Host.bare.registry bowOrAny.listed
      [.stack ⟨"minecraft", "bow"⟩ none none, .empty false] :=
    .cons rfl (.cons rfl .nil)
  exact equipment_verdict RuleKind.spawn.declarations .bare .empty equipment
    (SpawnRule.declares_equipment _ equipment) (fun _ _ _ there => by cases there) read
    (by simp)

/-- No stack at all. -/
def emptyItem : Json := .object [("empty", .bool true)]

/-- A player with empty hands, in the middle of nowhere. -/
def emptyHanded : Event where
  world := .void
  pos := ⟨0, 0, 0⟩
  ground := ⟨0, 0, 0⟩
  height := 0
  entity := {
    species := ⟨ResourceId.defaultSpace, "zombie"⟩
    hostile := true
    animal := false
    placement := none
    unobstructed := none
    player := none }
  source := none
  attacker := none
  player := some { name := "steve", item := fun _ => some .nothing, automated := false }
  item := none

/-- The condition that a stack be empty accepts what a player with empty hands holds, but the check
that is made of it fails. -/
theorem empty_slot_not_worn :
    ∃ check p, RuleKind.spawn.declarations.checksUnder .bare
        (Dict.empty.insert Keyword.playerHeldItem.name emptyItem) Keyword.playerHeldItem.name =
          [check] ∧
      (ItemMatcher.ofJson Host.bare.registry emptyItem).result = .ok (.empty true) ∧
      emptyHanded.player = some p ∧ p.item .mainHand = some .nothing ∧
      (ItemMatcher.empty true).test .nothing = true ∧
      ∀ g, (check.test.run emptyHanded g).1 = .ok false := by
  have equipment : (Keyword.playerHeldItem, [.mainHand]) ∈ Keyword.equipmentSlots := by decide
  have read : ItemMatcher.ReadAll Host.bare.registry emptyItem.listed [.empty true] :=
    .cons rfl .nil
  have declares := SpawnRule.declares_equipment _ equipment
  exact ⟨_, _, checksUnder_equipment equipment declares (fun _ _ _ there => by cases there) read
    (by simp), rfl, rfl, rfl, by decide, fun _ => rfl⟩

end DeclarationSet

end EventRules
