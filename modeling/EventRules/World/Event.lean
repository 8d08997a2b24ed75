/-
The events that rules look at. A rule sees an event through one view, `Event`; the kinds of events
that happen in a game (a spawn attempt, an entity joining the world, dropped experience) each say
how they look through it. The world, entities and players are given by their answers.
-/
import EventRules.Item.Stack
namespace EventRules

/-! ## Who takes part -/

structure Player where
  name : String
  item : EquipmentSlot → Option ItemStack
  /-- A machine that acts as a player, or a player that is not online. -/
  automated : Bool

structure Entity where
  species : ResourceId
  hostile : Bool
  animal : Bool
  /-- What the placement rules of its species say; `none` if it is no mob. -/
  placement : Option Bool
  /-- Whether nothing is in its way; `none` if it is no mob. -/
  unobstructed : Option Bool
  player : Option Player

/-- The cause of a damage. -/
structure DamageSource where
  id : String
  explosion : Bool := false
  projectile : Bool := false
  fire : Bool := false
  magic : Bool := false

/-- The world an event happens in. -/
structure World where
  dimension : ResourceId
  /-- Ticks since the first day began; a day has 24000 of them. -/
  dayTime : Int64
  raining : Bool
  thundering : Bool
  biome : BlockPos → ResourceId
  biomeCategory : BlockPos → String
  inStructure : String → BlockPos → Bool
  difficulty : Difficulty
  localDifficulty : BlockPos → Single
  spawnPoint : BlockPos
  light : BlockPos → Int32
  seesSky : BlockPos → Bool
  /-- The block at a position, `none` where the world is not loaded. -/
  block : BlockPos → Option BlockState
  /-- The energy stored in a block, seen from a side. -/
  energy : BlockPos → Option Direction → Option Int64
  /-- What a block contains, seen from a side. -/
  inventory : BlockPos → Option Direction → Option (List ItemStack)
  dayCounter : Int32
  lookedAt : Player → Option BlockPos

/-! ## The view of an event -/

structure Event where
  world : World
  pos : BlockPos
  /-- The position of the ground below, where blocks are looked up. -/
  ground : BlockPos
  height : Int32
  entity : Entity
  source : Option DamageSource
  attacker : Option Entity
  player : Option Player
  item : Option ItemStack
  /-- Whether a mob spawner causes the event; `none` where the question makes no sense. -/
  fromSpawner : Option Bool := none
  /-- Whether the rules' own spawning causes the event. -/
  spawnedByRules : Bool := false

/-! ## Kinds of events -/

/-- An attempt to spawn an entity at a point. -/
structure SpawnAttempt where
  world : World
  entity : Entity
  x : Double
  y : Double
  z : Double
  nearestPlayer : Option Player
  fromSpawner : Bool
  spawnedByRules : Bool

/-- The height is the coordinate rounded toward zero, the positions are rounded down. -/
def SpawnAttempt.event (s : SpawnAttempt) : Event where
  world := s.world
  pos := .containing s.x s.y s.z
  ground := .containing s.x (s.y - .one) s.z
  height := s.y.toInt32
  entity := s.entity
  source := none
  attacker := none
  player := s.nearestPlayer
  item := none
  fromSpawner := some s.fromSpawner
  spawnedByRules := s.spawnedByRules

/-- An entity joins the world. -/
structure WorldJoin where
  world : World
  entity : Entity
  pos : BlockPos
  nearestPlayer : Option Player
  spawnedByRules : Bool

def WorldJoin.event (j : WorldJoin) : Event where
  world := j.world
  pos := j.pos
  ground := j.pos.below
  height := j.pos.y
  entity := j.entity
  source := none
  attacker := none
  player := j.nearestPlayer
  item := none
  spawnedByRules := j.spawnedByRules

/-- An entity dies and drops experience. -/
structure ExperienceDrop where
  world : World
  entity : Entity
  pos : BlockPos
  /-- Who killed the entity, if a player did. -/
  attackingPlayer : Option Entity

def ExperienceDrop.event (d : ExperienceDrop) : Event where
  world := d.world
  pos := d.pos
  ground := d.pos.below
  height := d.pos.y
  entity := d.entity
  source := none
  attacker := d.attackingPlayer
  player := d.attackingPlayer.bind Entity.player
  item := none

end EventRules
