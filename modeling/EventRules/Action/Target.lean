/-
What actions change: a living entity, if there is one, and the messages for the player near it. A
change is a value, so that what an action does can be told apart from what it looks at.
-/
import EventRules.Item.Stack
namespace EventRules

/-! ## The target -/

inductive EntityAttribute where
  | maxHealth | movementSpeed | attackDamage
deriving DecidableEq

/-- A potion effect with its duration in ticks and its strength. -/
structure PotionEffect where
  effect : ResourceId
  duration : Int32
  amplifier : Int32
deriving DecidableEq

/-- The state of a living entity that actions see and change. -/
structure LivingEntity where
  /-- The base value of an attribute, `none` if the entity does not have it. -/
  base : EntityAttribute → Option Double
  health : Single
  scale : Single
  markers : NameSet := .empty
  angry : Bool := false
  name : Option String := none
  equipment : EquipmentSlot → Option ItemStack := fun _ => none
  /-- Effects in the order they were added. -/
  effects : List PotionEffect := []
  tag : Compound := []

structure Target where
  /-- The entity, if it is a living one. -/
  living : Option LivingEntity
  messages : List String := []

/-! ## Changes -/

/-- One change of a target. -/
inductive Change where
  | setBase (which : EntityAttribute) (value : Double)
  | setHealth (health : Single)
  | addMarker (marker : String)
  | setScale (scale : Single)
  | makeAngry
  | setName (name : String)
  | equip (slot : EquipmentSlot) (stack : ItemStack)
  | addEffect (effect : PotionEffect)
  | mergeTag (tag : Compound)
  | message (text : String)

/-- A living entity after a change. -/
def LivingEntity.after (l : LivingEntity) : Change → LivingEntity
  | .setBase which value =>
    { l with base := fun a => if a = which then some value else l.base a }
  | .setHealth health => { l with health := health }
  | .addMarker marker => { l with markers := l.markers.insert marker () }
  | .setScale scale => { l with scale := scale }
  | .makeAngry => { l with angry := true }
  | .setName name => { l with name := some name }
  | .equip slot stack =>
    { l with equipment := fun s => if s = slot then some stack else l.equipment s }
  | .addEffect effect => { l with effects := l.effects ++ [effect] }
  | .mergeTag tag => { l with tag := l.tag.merge tag }
  | .message _ => l

/-- A target after a change. -/
def Target.after (t : Target) (change : Change) : Target :=
  { living := t.living.map (·.after change)
    messages := match change with
      | .message text => t.messages ++ [text]
      | _ => t.messages }

/-- A target after changes in their order. -/
def Target.afterAll (t : Target) (changes : List Change) : Target := changes.foldl Target.after t

end EventRules
