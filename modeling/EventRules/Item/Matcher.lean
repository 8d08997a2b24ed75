/-
Conditions on stacks of items. A condition is written as an item descriptor, or as an object that
names an item and constrains its damage, count, energy, mod and data tag.
-/
import EventRules.Tag.Matcher
import EventRules.Specifier.Compact
import EventRules.World.Host
namespace EventRules

/-! ## Conditions -/

/-- A condition on a stack. -/
inductive ItemMatcher where
  /-- The stack is empty, or is not. -/
  | empty (expected : Bool)
  /-- The item, with the damage and the data tag if they are given. -/
  | stack (item : ResourceId) (damage : Option Int32) (tag : Option Compound)
  /-- The item with any number of constraints. -/
  | structured (item : ResourceId) (damage count : Option RangeExpr) (space : Option String)
      (nbt : List TagMatcher) (energy : Option RangeExpr)
  /-- An entry of the ore dictionary, which no stack satisfies any more. -/
  | ore (name : String)

/-- What is not asked for holds. -/
def holdsIfGiven {α : Type} (constraint : Option α) (holds : α → Bool) : Bool :=
  match constraint with
  | none => true
  | some a => holds a

/-- Whether a stack satisfies a condition; energy that is not stored counts as zero. -/
def ItemMatcher.test : ItemMatcher → ItemStack → Bool
  | .empty expected, s => s.isEmpty == expected
  | .stack item damage tag, s =>
    s.item == item && holdsIfGiven damage (s.damage == ·) &&
      holdsIfGiven tag fun t =>
        match s.tag with
        | none => false
        | some u => Compound.same u t
  | .structured item damage count space nbt energy, s =>
    s.item == item && holdsIfGiven damage (·.test s.damage.toInt64) &&
      holdsIfGiven count (·.test s.count.toInt64) && holdsIfGiven space (s.item.space == ·) &&
      nbt.all (·.test s.tag) && holdsIfGiven energy (·.test (s.energy.getD 0))
  | .ore _, _ => false

/-- Whether a stack that is not empty satisfies one of the conditions. -/
def ItemMatcher.anyAccepts (matchers : List ItemMatcher) (s : ItemStack) : Bool :=
  !s.isEmpty && matchers.any (·.test s)

/-! ## Item descriptors -/

/-- The compound in the text of a descriptor. -/
def Compound.parse? (text : String) : Option Compound := (Json.parse text).bind Compound.ofJson

/-- The condition of an item descriptor; the item must be known and the tag be an object. -/
def ItemMatcher.ofDescriptor (registry : Registry) (text : String) : Except Problem ItemMatcher :=
  match ItemDescriptor.parse text with
  | .error _ => .error (.badItemDescription text)
  | .ok d =>
    let item := ResourceId.parse d.id
    if !registry.hasItem item then .error (.unknownItem d.id)
    else
      match d.tag with
      | none => .ok (.stack item d.damage none)
      | some raw =>
        match Compound.parse? raw with
        | some tag => .ok (.stack item d.damage (some tag))
        | none => .error (.badTag raw)

/-! ## Descriptions -/

namespace ItemMatcher

/-- A constraint that is left out, and reported, if it cannot be read. -/
def constraint {α : Type} (read : Json → Except Problem α) (members : List (String × Json))
    (name : String) : Reported (Option α) :=
  match Entries.find? name members with
  | none => pure none
  | some v => .ofExcept (read v)

/-- The structured form of an object whose item is known; a bad `damage` refuses the whole. -/
def structuredOfMembers (item : ResourceId) (members : List (String × Json)) :
    Reported (Except Problem ItemMatcher) :=
  let damage : Except Problem (Option RangeExpr) :=
    match Entries.find? "damage" members with
    | none => .ok none
    | some v => (RangeExpr.ofJson v).map some
  match damage with
  | .error p => pure (.error p)
  | .ok damage => do
    let count ← constraint RangeExpr.ofJson members "count"
    let energy ← constraint RangeExpr.ofJson members "energy"
    let nbt ← constraint TagMatcher.listOfJson members "nbt"
    let space := (Entries.find? "mod" members).bind Json.string?
    return .ok (.structured item damage count space (nbt.getD []) energy)

/-- The object form. `empty` goes before all else, `ore` before the constraints. -/
def ofMembers (registry : Registry) (members : List (String × Json)) :
    Reported (Except Problem ItemMatcher) :=
  let refused : Problem := .badItemDescription (Json.object members).print
  match Entries.find? "empty" members with
  | some v =>
    match v.bool? with
    | some b => pure (.ok (.empty b))
    | none => pure (.error refused)
  | none =>
    match (Entries.find? "item" members).bind Json.string? with
    | none => pure (.error refused)
    | some name =>
      let item := ResourceId.parse name
      if !registry.hasItem item then pure (.error (.unknownItem name))
      else
        match Entries.find? "ore" members with
        | some v => do
          let ore := v.string?.getD ""
          Reported.warn (.oreDictionary ore)
          return .ok (.ore ore)
        | none => structuredOfMembers item members

/-- The condition of a description. -/
def ofJson (registry : Registry) : Json → Reported (Except Problem ItemMatcher)
  | .string text => pure (ofDescriptor registry text)
  | .object members => ofMembers registry members
  | v => pure (.error (.badItemDescription v.print))

/-- The conditions of a list of descriptions; what cannot be read is reported and left out. -/
def listOfJson (registry : Registry) : List Json → Reported (List ItemMatcher)
  | [] => pure []
  | v :: rest => do
    let first ← (ofJson registry v).orReport
    let others ← listOfJson registry rest
    return first.toList ++ others

end ItemMatcher

end EventRules
