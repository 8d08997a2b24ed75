/-
Clauses on the player near the event and on what the optional integrations know: equipment,
structures, scripted states, seasons, game stages, cities and jewellery.
-/
import EventRules.Attribute.Keyword
import EventRules.Item.Matcher
import EventRules.Condition.Clause
namespace EventRules.Condition

open Keyword

/-! ## Equipment -/

/-- The item conditions of a list of descriptions as a test; without any there is none. -/
def itemsTest (registry : Registry) (descriptions : List Json)
    (holds : List ItemMatcher → Event → Bool) : Reported (Option Test) := do
  let matchers ← ItemMatcher.listOfJson registry descriptions
  return if matchers.isEmpty then none else some (.fact (holds matchers))

/-- Whether an optional stack satisfies one of the conditions. -/
def wears (matchers : List ItemMatcher) : Option ItemStack → Bool
  | some s => ItemMatcher.anyAccepts matchers s
  | none => false

/-- Whether the event has a player of whom something holds. -/
def onPlayer (e : Event) (holds : Player → Bool) : Bool :=
  match e.player with
  | some p => holds p
  | none => false

/-- The player has a fitting stack in one of the slots. -/
def equipmentClause (key : Key .json) (slots : List EquipmentSlot) : Clause where
  keyword := key.name
  intake := .every .json
  build := fun host (descriptions : List Json) _ =>
    itemsTest host.registry descriptions fun matchers e =>
      onPlayer e fun p => slots.any fun slot => wears matchers (p.item slot)

def equipment : List Clause :=
  [equipmentClause helmet [.head],
    equipmentClause chestplate [.chest],
    equipmentClause leggings [.legs],
    equipmentClause boots [.feet],
    equipmentClause playerHeldItem [.mainHand],
    equipmentClause heldItem [.mainHand],
    equipmentClause offHandItem [.offHand],
    equipmentClause bothHandsItem [.mainHand, .offHand]]

/-! ## Structures and scripted states -/

/-- A state that has the value its specifier says, the states given by `current`. -/
def stateTest (text : String) (current : String → Event → Option String) :
    Except Problem (Event → Bool) :=
  match StateSpecifier.parse text with
  | .ok s => .ok fun e => current s.name e == some s.value
  | .error _ => .error (.badStateSpecifier text)

def structuresAndStates : List Clause :=
  [.single structureName fun (name : String) e => e.world.inStructure name e.pos,
    .integrated .enigmaScript state fun i (text : String) =>
      stateTest text fun name e => i.state e.world name,
    .integrated .enigmaScript playerState fun i (text : String) =>
      stateTest text fun name e => e.player.bind fun p => i.playerState p name]

/-! ## Seasons, stages and cities -/

def seasonClause (key : Key .boolean) (season : Season) : Clause :=
  .integrated .seasons key fun i (b : Bool) =>
    .ok fun e => (i.season e.world == some season) == b

def cityClause (key : Key .boolean) (inside : Integrations → Event → Bool) : Clause :=
  .integrated .lostCities key fun i (b : Bool) => .ok fun e => inside i e == b

def seasonsStagesCities : List Clause :=
  [seasonClause summer .summer,
    seasonClause winter .winter,
    seasonClause spring .spring,
    seasonClause autumn .autumn,
    .integrated .gameStages gameStage fun i (stage : String) =>
      .ok fun e => onPlayer e fun p => i.hasStage p stage,
    cityClause inCity Integrations.inCity,
    cityClause inStreet Integrations.inStreet,
    cityClause inSphere Integrations.inSphere,
    cityClause inBuilding Integrations.inBuilding]

/-! ## Jewellery -/

/-- The player wears a fitting piece in one of the slots of a kind. -/
def baubleClause (key : Key .json) (slot : BaubleSlot) : Clause where
  keyword := key.name
  intake := .every .json
  needs := some .baubles
  build := fun host (descriptions : List Json) _ =>
    itemsTest host.registry descriptions fun matchers e =>
      onPlayer e fun p => (host.integrations.baubleSlots slot).any fun i =>
        wears matchers (host.integrations.bauble p i)

def jewellery : List Clause :=
  [baubleClause amulet .amulet,
    baubleClause ring .ring,
    baubleClause belt .belt,
    baubleClause trinket .trinket,
    baubleClause head .head,
    baubleClause body .body,
    baubleClause charm .charm]

end EventRules.Condition
