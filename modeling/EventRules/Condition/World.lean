/-
Clauses on the world and on the position of the event: chance, dimension, time, height, weather,
difficulty, distance, light, blocks and biomes.
-/
import EventRules.Attribute.Keyword
import EventRules.Block.Matcher
import EventRules.Block.Offset
import EventRules.Condition.Clause
namespace EventRules.Condition

open Keyword

/-! ## Chance, place and time -/

def chanceClause : Clause where
  keyword := random.name
  intake := .first .float
  build := fun _ (p : Single) _ => pure (some (.chance p))

/-- The length of a day in ticks. -/
def dayLength : Int := 24000

/-- The time of day, from zero up to the length of a day. -/
def timeOfDay (e : Event) : Int := e.world.dayTime.toInt % dayLength

def placeAndTime : List Clause :=
  [chanceClause,
    .oneOf dimension ResourceId.parse fun e => e.world.dimension,
    .oneOf dimensionMod id fun e => e.world.dimension.space,
    .single minTime fun (v : Int32) e => v.toInt ≤ timeOfDay e,
    .single maxTime fun (v : Int32) e => timeOfDay e ≤ v.toInt,
    .single minHeight fun (v : Int32) e => v ≤ e.height,
    .single maxHeight fun (v : Int32) e => e.height ≤ v]

/-! ## State of the world -/

/-- Rain or thunder, by how the name begins. -/
def weatherNamed (name : String) : Except Problem (Event → Bool) :=
  let lower := (Text.lower name).toList
  if ['r', 'a', 'i', 'n'].isPrefixOf lower then .ok fun e => e.world.raining
  else if ['t', 'h', 'u', 'n', 'd', 'e', 'r'].isPrefixOf lower then .ok fun e => e.world.thundering
  else .error (.unknownWeather name)

def difficultyNamed (name : String) : Except Problem (Event → Bool) :=
  match Difficulty.ofName? name with
  | some difficulty => .ok fun e => e.world.difficulty == difficulty
  | none => .error (.unknownDifficulty name)

/-- The squared distance to the point where players first appear. -/
def spawnDistanceSquared (e : Event) : Double := e.pos.distanceSquared e.world.spawnPoint

/-- The square of a threshold, in double precision. -/
def squared (d : Single) : Double :=
  let wide : Double := d.convert
  wide * wide

def worldState : List Clause :=
  [.singleOr weather weatherNamed,
    .oneOf category Text.lower fun e => e.world.biomeCategory e.pos,
    .singleOr difficulty difficultyNamed,
    .single minSpawnDistance fun (d : Single) e => (squared d).le (spawnDistanceSquared e),
    .single maxSpawnDistance fun (d : Single) e => (spawnDistanceSquared e).le (squared d),
    .single minLight fun (v : Int32) e => v ≤ e.world.light e.pos,
    .single maxLight fun (v : Int32) e => e.world.light e.pos ≤ v,
    .single minDifficulty fun (v : Single) e => v.le (e.world.localDifficulty e.pos),
    .single maxDifficulty fun (v : Single) e => (e.world.localDifficulty e.pos).le v,
    .single seeSky fun (b : Bool) e => e.world.seesSky e.pos == b]

/-! ## Blocks and biomes -/

/-- The conditions of all descriptions, or the first problem that refuses one. -/
def blockMatchers (registry : Registry) :
    List Json → Reported (Except Problem (List BlockMatcher))
  | [] => pure (.ok [])
  | v :: rest => do
    match ← BlockMatcher.ofJson registry v with
    | .error p => return .error p
    | .ok m =>
      match ← blockMatchers registry rest with
      | .error p => return .error p
      | .ok ms => return .ok (m :: ms)

/-- Some description fits the block at the offset; one that is malformed refuses them all. -/
def blockTest (registry : Registry) (descriptions : List Json) (offset : Option Json) :
    Reported (Option Test) :=
  let offset : Except Problem BlockOffset :=
    match offset with
    | none => .ok {}
    | some v => BlockOffset.ofJson v
  match offset with
  | .error p => do
    Reported.error p
    return none
  | .ok offset => do
    let matchers ← (blockMatchers registry descriptions).orReport
    return matchers.map fun ms =>
      .fact fun e => ms.any (·.test e.world (offset.position e))

def blockClause : Clause where
  keyword := block.name
  intake := .every .json
  companion := some blockOffset
  build := fun host (descriptions : List Json) offset =>
    blockTest host.registry descriptions offset

/-- The biome is one of those named, by its identifier or by the name an integration gives it. -/
def biomeClause : Clause where
  keyword := biome.name
  intake := .every .string
  build := fun host (names : List String) _ => pure do
    let ids ← Alternatives.of? (names.map ResourceId.parse)
    let names ← Alternatives.of? names
    some <| .fact fun e =>
      let here := e.world.biome e.pos
      ids.contains here || (host.integrations.biomeName here).any names.contains

/-- The biomes of all the types; a type that does not exist is reported and adds none. -/
def biomesOfTypes (registry : Registry) : List String → Reported (List ResourceId)
  | [] => pure []
  | name :: rest => do
    match registry.biomesOfType (Text.upper name) with
    | some found =>
      let others ← biomesOfTypes registry rest
      return found ++ others
    | none =>
      Reported.error (.unknownBiomeType name)
      biomesOfTypes registry rest

/-- The biome is of one of the types; types without biomes are no condition. -/
def biomeTypeClause : Clause where
  keyword := biomeType.name
  intake := .every .string
  build := fun host (names : List String) _ => do
    let biomes ← biomesOfTypes host.registry names
    return if biomes.isEmpty then none
      else some (.fact fun e => biomes.contains (e.world.biome e.pos))

def blocksAndBiomes : List Clause := [blockClause, biomeClause, biomeTypeClause]

end EventRules.Condition
