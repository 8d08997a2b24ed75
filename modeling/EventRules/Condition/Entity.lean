/-
Clauses on the entity of the event and on the event itself: its nature, its species, who attacked
it and how, how many creatures there are, and the day.
-/
import EventRules.Attribute.Keyword
import EventRules.Condition.Clause
import EventRules.Condition.Count
namespace EventRules.Condition

open Keyword

/-! ## The entity -/

/-- An answer that only mobs have; where there is none it counts as no. -/
def agrees (answer : Option Bool) (b : Bool) : Bool :=
  match answer with
  | some a => a == b
  | none => !b

def nature : List Clause :=
  [.single hostile fun (b : Bool) e => e.entity.hostile == b,
    .single passive fun (b : Bool) e => (e.entity.animal && !e.entity.hostile) == b,
    .single canSpawnHere fun (b : Bool) e => agrees e.entity.placement b,
    .single notColliding fun (b : Bool) e => agrees e.entity.unobstructed b,
    .single spawner fun (b : Bool) e => e.fromSpawner == some b,
    .single inControl fun (b : Bool) e => e.spawnedByRules == b]

/-- The names of known entities; the others are reported and left out. -/
def knownSpecies (registry : Registry) : List String → Reported (List ResourceId)
  | [] => pure []
  | name :: rest => do
    let first ← Reported.ofExcept (CountInfo.knownEntity registry name)
    let others ← knownSpecies registry rest
    return first.toList ++ others

/-- The entity is of one of the known species named; without any there is no condition. -/
def mobClause : Clause where
  keyword := mob.name
  intake := .every .string
  build := fun host (names : List String) _ => do
    let species ← knownSpecies host.registry names
    return (Alternatives.of? species).map fun species =>
      .fact fun e => species.contains e.entity.species

/-! ## The attack -/

/-- Whether the attacker, if there is one, is a player of whom something holds. -/
def attackedBy (e : Event) (holds : Player → Bool) : Bool :=
  match e.attacker.bind Entity.player with
  | some p => holds p
  | none => false

/-- A property of the damage; without a cause of damage it counts as no. -/
def damageClause (key : Key .boolean) (property : DamageSource → Bool) : Clause :=
  .single key fun (b : Bool) e => agrees (e.source.map property) b

def attack : List Clause :=
  [mobClause,
    .single player fun (b : Bool) e => attackedBy e (fun _ => true) == b,
    .single realPlayer fun (b : Bool) e => attackedBy e (fun p => !p.automated) == b,
    .single fakePlayer fun (b : Bool) e => attackedBy e Player.automated == b,
    damageClause explosion DamageSource.explosion,
    damageClause projectile DamageSource.projectile,
    damageClause fire DamageSource.fire,
    damageClause magic DamageSource.magic,
    .oneOf source some fun e => e.source.map DamageSource.id,
    .oneOf mod id fun e => e.entity.species.space]

/-! ## Counts and days -/

/-- The minimum includes the threshold, the maximum does not. -/
def countClause (key : Key .json) (passes : (current threshold : Int64) → Bool) : Clause where
  keyword := key.name
  intake := .first .json
  build := fun host (v : Json) _ => do
    let info ← Reported.ofExcept (CountInfo.ofJson host.registry v)
    return info.map fun c => .count fun e => do
      let current ← c.current host.population e
      return passes current.toInt64 (c.threshold host.population e)

/-- Every so many days; the number of days must be positive. -/
def everyDays (n : Int32) : Except Problem (Event → Bool) :=
  if 0 < n then .ok fun e => e.world.dayCounter % n == 0
  else .error (.badDayCount dayCount.name n)

def countsAndDays : List Clause :=
  [countClause minCount fun current threshold => threshold ≤ current,
    countClause maxCount fun current threshold => current < threshold,
    .singleOr dayCount everyDays,
    .single minDayCount fun (n : Int32) e => n ≤ e.world.dayCounter,
    .single maxDayCount fun (n : Int32) e => e.world.dayCounter < n]

end EventRules.Condition
