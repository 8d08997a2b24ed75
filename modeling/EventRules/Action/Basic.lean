/-
The actions of spawn rules. Each reads the entity it acts on and yields the changes it wants; a
message needs no living entity, every other action does nothing without one. An attribute is changed
at most once for an entity, which a marker on the entity records.
-/
import EventRules.Action.Target
import EventRules.Action.Weighted
namespace EventRules

inductive Action where
  | adjust (which : EntityAttribute) (set : Option Single) (multiply add : Single)
  | size (multiply add : Single)
  | potion (effect : PotionEffect)
  | equip (slot : EquipmentSlot) (choice : WeightedChoice ItemStack)
  | angry
  | mergeTag (tag : Compound)
  | customName (name : String)
  | message (text : String)

/-- The marker that records that an attribute was changed. -/
def EntityAttribute.marker : EntityAttribute → String
  | .maxHealth => "ctrlHealth"
  | .movementSpeed => "ctrlSpeed"
  | .attackDamage => "ctrlDamage"

namespace Action

/-- The changes of an attribute to a new value; the health follows its maximum. -/
def adjustment (which : EntityAttribute) (value : Double) : List Change :=
  let health : List Change :=
    match which with
    | .maxHealth => [.setHealth value.convert]
    | _ => []
  .setBase which value :: health ++ [.addMarker which.marker]

/-- The changes of a living entity. -/
def changesOn (l : LivingEntity) : Action → Generator → List Change × Generator
  | .adjust which set multiply add, g =>
    if l.markers.contains which.marker then ([], g)
    else
      match l.base which with
      | none => ([], g)
      | some base =>
        let start : Double :=
          match set with
          | some v => v.convert
          | none => base
        (adjustment which (start * multiply.convert + add.convert), g)
  | .size multiply add, g => ([.setScale (l.scale * multiply + add)], g)
  | .potion effect, g => ([.addEffect effect], g)
  | .equip slot choice, g =>
    let (w, g) := g.next
    match choice.choose? w with
    | some stack => ([.equip slot stack], g)
    | none => ([], g)
  | .angry, g => ([.makeAngry], g)
  | .mergeTag tag, g => ([.mergeTag tag], g)
  | .customName name, g => ([.setName name], g)
  | .message text, g => ([.message text], g)

/-- The changes of a target. -/
def changes (a : Action) (t : Target) (g : Generator) : List Change × Generator :=
  match a, t.living with
  | .message text, _ => ([.message text], g)
  | _, none => ([], g)
  | a, some l => a.changesOn l g

/-- All actions in order, each seeing what those before it did: the changes they make, the target
after them, and the generator behind them. -/
def applyAll : List Action → Target → Generator → List Change × Target × Generator
  | [], t, g => ([], t, g)
  | a :: rest, t, g =>
    let (made, g) := a.changes t g
    let (others, t, g) := applyAll rest (t.afterAll made) g
    (made ++ others, t, g)

end Action

end EventRules
