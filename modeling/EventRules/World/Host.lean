/-
What the game that uses the rules answers: which identifiers its registries know, how many creatures
there are, and what its optional integrations say.
-/
import EventRules.World.Event
import EventRules.Problem
namespace EventRules

/-! ## Registries -/

structure Registry where
  hasEntity : ResourceId → Bool
  hasBlock : ResourceId → Bool
  hasItem : ResourceId → Bool
  hasEffect : ResourceId → Bool
  /-- The default state of a block, with every property that it declares. -/
  defaultState : ResourceId → Option BlockState
  /-- The biomes of a type, `none` if there is no such type. -/
  biomesOfType : String → Option (List ResourceId)

/-! ## Populations -/

structure Population where
  ofSpecies : World → ResourceId → Int32
  hostile : World → Int32
  passive : World → Int32
  ofMod : World → String → Int32
  hostileOfMod : World → String → Int32
  passiveOfMod : World → String → Int32
  players : World → Int32
  /-- The chunks in which creatures may spawn. -/
  spawnChunks : World → Int32

/-! ## Integrations -/

inductive Season where
  | spring | summer | autumn | winter
deriving DecidableEq

/-- The slots for jewellery. -/
inductive BaubleSlot where
  | amulet | ring | belt | trinket | head | body | charm
deriving DecidableEq

/-- The optional integrations: which are there, and their answers. -/
structure Integrations where
  has : Capability → Bool
  season : World → Option Season
  hasStage : Player → String → Bool
  inCity : Event → Bool
  inStreet : Event → Bool
  inSphere : Event → Bool
  inBuilding : Event → Bool
  baubleSlots : BaubleSlot → List Int32
  bauble : Player → Int32 → Option ItemStack
  state : World → String → Option String
  playerState : Player → String → Option String
  /-- Another name for a biome, from an integration that renames them. -/
  biomeName : ResourceId → Option String

/-- No integration at all. -/
def Integrations.none : Integrations where
  has := fun _ => false
  season := fun _ => .none
  hasStage := fun _ _ => false
  inCity := fun _ => false
  inStreet := fun _ => false
  inSphere := fun _ => false
  inBuilding := fun _ => false
  baubleSlots := fun _ => []
  bauble := fun _ _ => .none
  state := fun _ _ => .none
  playerState := fun _ _ => .none
  biomeName := fun _ => .none

structure Host where
  registry : Registry
  population : Population
  integrations : Integrations := .none

/-- The host in diagnostic output, which shows nothing of it. -/
def Host.describe (_ : Host) : String := "Host \x7b .. \x7d"

end EventRules
