/-
The actions of a rule document, in the order in which they run: attributes, size, potions,
equipment, anger, data tag, name, message. Each takes its keywords out of the document. What cannot
be read is reported and left out; only equipment whose weights have no finite sum stops it all.
-/
import EventRules.Action.Basic
import EventRules.Attribute.Keyword
import EventRules.Attribute.Map
import EventRules.Item.Matcher
namespace EventRules.Action

open Keyword

/-! ## Attributes and size -/

/-- Takes a keyword's value, or what stands for it when it is missing. -/
def takeOr {t : ValueType} (m : AttributeMap) (key : Key t) (default : t.Carrier) :
    t.Carrier × AttributeMap :=
  let (value, m) := m.take key
  (value.getD default, m)

/-- The change of one attribute, if one of its three keywords is there. -/
def compileAdjust (which : EntityAttribute) (set multiply add : Key .float) (m : AttributeMap) :
    List Action × AttributeMap :=
  if m.contains set || m.contains multiply || m.contains add then
    let (start, m) := m.take set
    let (factor, m) := takeOr m multiply (.one : Single)
    let (offset, m) := takeOr m add (.zero false : Single)
    ([.adjust which start factor offset], m)
  else ([], m)

def compileSize (m : AttributeMap) : List Action × AttributeMap :=
  if m.contains sizeMultiply || m.contains sizeAdd then
    let (factor, m) := takeOr m sizeMultiply (.one : Single)
    let (offset, m) := takeOr m sizeAdd (.zero false : Single)
    ([.size factor offset], m)
  else ([], m)

/-! ## Potions -/

/-- The effect of a potion specifier, which must be known. -/
def potionEffect (registry : Registry) (text : String) : Except Problem PotionEffect :=
  match PotionSpecifier.parse text with
  | .error _ => .error (.badPotion text)
  | .ok s =>
    let effect := ResourceId.parse s.effect
    if registry.hasEffect effect then .ok ⟨effect, s.duration, s.amplifier⟩
    else .error (.unknownEffect s.effect)

def potionActions (registry : Registry) : List String → Reported (List Action)
  | [] => pure []
  | text :: rest => do
    let first ← Reported.ofExcept (potionEffect registry text)
    let others ← potionActions registry rest
    return (first.map Action.potion).toList ++ others

/-! ## Equipment -/

/-- A compound, given as an object or as a text that holds one. -/
def compoundOf : Json → Option Compound
  | .string text => Compound.parse? text
  | v => Compound.ofJson v

/-- The stack of an item descriptor: one item, undamaged unless a damage is given; the item must be
known and the tag be an object. -/
def describedStack (registry : Registry) (text : String) : Except Problem ItemStack :=
  match ItemDescriptor.parse text with
  | .error _ => .error (.badItemDescription text)
  | .ok d =>
    let item := ResourceId.parse d.id
    if !registry.hasItem item then .error (.unknownItem d.id)
    else
      let s : ItemStack := { item := item, damage := d.damage.getD 0 }
      match d.tag with
      | none => .ok s
      | some raw =>
        match Compound.parse? raw with
        | some tag => .ok { s with tag := some tag }
        | none => .error (.badTag raw)

/-- The fields of a weighted item. -/
structure WeightedItem where
  item : String
  weight : Single
  count : Option Int32
  nbt : Option Json

/-- A weight, rounded at once to single precision; one if it is not given. -/
def weightField : Option Json → Option Single
  | none => some .one
  | some (.number (.integer n)) => some (.ofInt n)
  | some (.number (.float x)) => some x.convert
  | some _ => none

/-- A count, which may be null. -/
def countField : Option Json → Option (Option Int32)
  | none => some none
  | some .null => some none
  | some (.number n) => n.int32?.map some
  | some _ => none

/-- A data tag, which may be null. -/
def nbtField : Option Json → Option Json
  | some .null => none
  | v => v

def WeightedItem.ofMembers (members : List (String × Json)) : Option WeightedItem := do
  let item ← (← Entries.find? "item" members).string?
  let weight ← weightField (Entries.find? "weight" members)
  let count ← countField (Entries.find? "count" members)
  return ⟨item, weight, count, nbtField (Entries.find? "nbt" members)⟩

/-- The stack of a weighted item: the count and the data tag go before those of the descriptor. -/
def WeightedItem.stack (registry : Registry) (w : WeightedItem) : Except Problem ItemStack := do
  let s ← describedStack registry w.item
  let s := { s with count := w.count.getD s.count }
  match w.nbt with
  | none => return s
  | some v =>
    match compoundOf v with
    | some tag => return { s with tag := some tag }
    | none => throw (.badTag v.print)

/-- A stack with its weight; a descriptor alone has weight one. -/
def weightedStack (registry : Registry) : Json → Except Problem (ItemStack × Single)
  | .string text => (describedStack registry text).map fun s => (s, .one)
  | .object members =>
    match WeightedItem.ofMembers members with
    | none => .error (.badItemDescription (Json.object members).print)
    | some w => (w.stack registry).map fun s => (s, w.weight)
  | v => .error (.badItemDescription v.print)

/-- The stacks of all descriptions that can be read. -/
def weightedStacks (registry : Registry) : List Json → Reported (List (ItemStack × Single))
  | [] => pure []
  | v :: rest => do
    let first ← Reported.ofExcept (weightedStack registry v)
    let others ← weightedStacks registry rest
    return first.toList ++ others

/-- The choice among the stacks of a list of descriptions, if its weights allow one. -/
def equipActions (registry : Registry) (slot : EquipmentSlot) (descriptions : List Json) :
    Reported (Except Fault (List Action)) := do
  let entries ← weightedStacks registry descriptions
  if entries.isEmpty then return .ok []
  match WeightedChoice.ofEntries entries with
  | .error fault => return .error fault
  | .ok (some choice) => return .ok [.equip slot choice]
  | .ok none =>
    Reported.error (.badItemDescription (Json.array descriptions).print)
    return .ok []

/-- The equipment keywords with their slots, in order. -/
def equipmentKeywords : List (Key .json × EquipmentSlot) :=
  [(heldItem, .mainHand), (armorHelmet, .head), (armorChest, .chest), (armorLegs, .legs),
    (armorBoots, .feet)]

/-- The equipment under some keywords, up to the first fault. -/
def compileEquipment (registry : Registry) :
    List (Key .json × EquipmentSlot) → AttributeMap →
      Reported (Except Fault (List Action × AttributeMap))
  | [], m => pure (.ok ([], m))
  | (key, slot) :: rest, m => do
    let (descriptions, m) := m.takeAll key
    match ← equipActions registry slot (descriptions.getD []) with
    | .error fault => return .error fault
    | .ok first =>
      let others ← compileEquipment registry rest m
      return others.map fun (others, m) => (first ++ others, m)

/-! ## All actions -/

/-- The action that angers, only where it is asked for. -/
def angerActions : Option Bool → List Action
  | some true => [.angry]
  | _ => []

/-- The action that merges a data tag. -/
def tagAction : Option Json → Reported (List Action)
  | none => pure []
  | some v =>
    match compoundOf v with
    | some tag => pure [.mergeTag tag]
    | none => do
      Reported.error (.badTag v.print)
      return []

/-- What changes the body: attributes, size and potions. -/
def compileBody (registry : Registry) (m : AttributeMap) :
    Reported (List Action × AttributeMap) := do
  let (health, m) := compileAdjust .maxHealth healthSet healthMultiply healthAdd m
  let (speed, m) := compileAdjust .movementSpeed speedSet speedMultiply speedAdd m
  let (damage, m) := compileAdjust .attackDamage damageSet damageMultiply damageAdd m
  let (scaling, m) := compileSize m
  let (effects, m) := m.takeAll Keyword.potion
  let potions ← potionActions registry (effects.getD [])
  return (health ++ speed ++ damage ++ scaling ++ potions, m)

/-- What changes the manner: anger, data tag, name and message. -/
def compileManner (m : AttributeMap) : Reported (List Action × AttributeMap) := do
  let (enraged, m) := m.take Keyword.angry
  let (raw, m) := m.take mobNbt
  let tags ← tagAction raw
  let (name, m) := m.take Keyword.customName
  let (text, m) := m.take Keyword.message
  return (angerActions enraged ++ tags ++ (name.map Action.customName).toList ++
    (text.map Action.message).toList, m)

/-- The actions of a document, and what they leave of it. -/
def compile (registry : Registry) (m : AttributeMap) :
    Reported (Except Fault (List Action × AttributeMap)) := do
  let (body, m) ← compileBody registry m
  match ← compileEquipment registry equipmentKeywords m with
  | .error fault => return .error fault
  | .ok (equipped, m) =>
    let (manner, m) ← compileManner m
    return .ok (body ++ equipped ++ manner, m)

end EventRules.Action
