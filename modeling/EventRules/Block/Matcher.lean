/-
Conditions on the block at a position: which block or block state it is, the mod it belongs to, the
energy it stores and the stacks it contains. A condition is written as the name of a block, or as an
object.
-/
import EventRules.Item.Matcher
namespace EventRules

/-! ## Conditions -/

/-- Which block stands at a position. -/
inductive BlockIdentity where
  | any
  | block (id : ResourceId)
  | state (state : BlockState)
  /-- An entry of the ore dictionary, which no block satisfies any more. -/
  | ore

/-- A condition on a block; energy and contents are seen from one side. -/
structure BlockMatcher where
  identity : BlockIdentity
  space : Option String := none
  energy : Option RangeExpr := none
  contains : Option (List ItemMatcher) := none
  side : Option Direction := none

def BlockIdentity.test : BlockIdentity → Option BlockState → Bool
  | .any, _ => true
  | .block id, some s => s.block == id
  | .block _, none => false
  | .state expected, some s => s == expected
  | .state _, none => false
  | .ore, _ => false

/-- Whether the block at a position satisfies a condition. Where the world is not loaded no block
is of any mod; energy that is not stored counts as zero. -/
def BlockMatcher.test (m : BlockMatcher) (w : World) (p : BlockPos) : Bool :=
  m.identity.test (w.block p) &&
    (holdsIfGiven m.space fun space =>
      match w.block p with
      | some s => s.block.space == space
      | none => false) &&
    (holdsIfGiven m.energy fun expr => expr.test ((w.energy p m.side).getD 0)) &&
    holdsIfGiven m.contains fun matchers =>
      match w.inventory p m.side with
      | some contents => contents.any (ItemMatcher.anyAccepts matchers)
      | none => false

/-! ## Descriptions -/

namespace BlockMatcher

/-- A block by its name, which must be known. -/
def knownBlock (registry : Registry) (name : String) : Except Problem ResourceId :=
  let id := ResourceId.parse name
  if registry.hasBlock id then .ok id else .error (.unknownBlock name)

/-- A property with its value, as a record. -/
def propertyOfJson (v : Json) : Option (String × String) := do
  match ← v.record? ["name", "value"] with
  | [some name, some value] => return (← name.string?, ← value.string?)
  | _ => none

def propertiesOfJson : Json → Option (List (String × String))
  | .array items => items.mapM propertyOfJson
  | _ => none

/-- The default state of a block with the listed properties in place of its own. -/
def constrainedState (registry : Registry) (block : ResourceId)
    (properties : List (String × String)) : BlockState :=
  properties.foldl (fun s p => s.override p.1 p.2)
    ((registry.defaultState block).getD (.plain block))

/-- Which block an object describes; `refused` is the problem of a malformed one. -/
def identityOfMembers (registry : Registry) (members : List (String × Json)) (refused : Problem) :
    Reported (Except Problem BlockIdentity) :=
  match Entries.find? "ore" members with
  | some ore => do
    Reported.warn (.oreDictionary ore.print)
    return .ok .ore
  | none =>
    match Entries.find? "block" members with
    | none => pure (.ok .any)
    | some v => pure <| do
      let some name := v.string? | throw refused
      let block ← knownBlock registry name
      match Entries.find? "properties" members with
      | none => return .block block
      | some listed =>
        let some properties := propertiesOfJson listed | throw refused
        return .state (constrainedState registry block properties)

/-- The side an object names. -/
def sideOfMembers (members : List (String × Json)) : Except Problem (Option Direction) :=
  match Entries.find? "side" members with
  | none => .ok none
  | some v =>
    let name := v.string?.getD ""
    match Direction.ofName? name with
    | some side => .ok (some side)
    | none => .error (.unknownSide name)

/-- The contents an object asks for. If none of them can be read there is no such constraint. -/
def contentsOfMembers (registry : Registry) (members : List (String × Json)) :
    Reported (Option (List ItemMatcher)) :=
  match Entries.find? "contains" members with
  | none => pure none
  | some v => do
    let matchers ← ItemMatcher.listOfJson registry v.listed
    return if matchers.isEmpty then none else some matchers

/-- The object form. -/
def ofMembers (registry : Registry) (members : List (String × Json)) :
    Reported (Except Problem BlockMatcher) := do
  let refused : Problem := .badBlockDescription (Json.object members).print
  match ← identityOfMembers registry members refused with
  | .error p => return .error p
  | .ok identity =>
    match sideOfMembers members with
    | .error p => return .error p
    | .ok side =>
      let energy ← ItemMatcher.constraint RangeExpr.ofJson members "energy"
      let contains ← contentsOfMembers registry members
      let space := (Entries.find? "mod" members).bind Json.string?
      return .ok { identity, space, energy, contains, side }

/-- A name that begins so stands for an entry of the ore dictionary. -/
def oreMark : List Char := ['o', 'r', 'e', ':']

/-- The condition of a description. -/
def ofJson (registry : Registry) : Json → Reported (Except Problem BlockMatcher)
  | .string name =>
    if oreMark.isPrefixOf name.toList then do
      Reported.warn (.oreDictionary (String.ofList (name.toList.drop oreMark.length)))
      return .ok { identity := .ore }
    else pure ((knownBlock registry name).map fun id => { identity := .block id })
  | .object members => ofMembers registry members
  | v => pure (.error (.badBlockDescription v.print))

end BlockMatcher

end EventRules
