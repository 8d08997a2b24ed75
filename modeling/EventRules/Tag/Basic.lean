/-
Data tags as attached to items and entities: numbers of several widths, strings, lists, and
compounds, which file tags under names. Merging a compound into another goes down into the compounds
both have under one name and overwrites everything else.
-/
import EventRules.Json.Basic
namespace EventRules

/-- A data tag. -/
inductive Tag where
  | byte (v : Int8)
  | short (v : Int16)
  | int (v : Int32)
  | long (v : Int64)
  | float (v : Single)
  | double (v : Double)
  | string (s : String)
  | list (items : List Tag)
  | compound (entries : List (String × Tag))

/-- Tags filed under names, in increasing order of the names. -/
abbrev Compound := List (String × Tag)

/-! ## Reading tags -/

/-- A numeric tag as a 32-bit integer: a long keeps its low bits, the others round toward zero. -/
def Tag.int? : Tag → Option Int32
  | .byte v => some v.toInt32
  | .short v => some v.toInt32
  | .int v => some v
  | .long v => some v.toInt32
  | .float v => some v.toInt32
  | .double v => some v.toInt32
  | .string _ => none
  | .list _ => none
  | .compound _ => none

def Tag.compound? : Tag → Option Compound
  | .compound c => some c
  | _ => none

namespace Compound

/-- The integer filed under `key`, zero if there is no number. -/
def int (c : Compound) (key : String) : Int32 :=
  ((Entries.find? key c).bind Tag.int?).getD 0

/-- The compounds in the list filed under `key`. -/
def compounds (c : Compound) (key : String) : List Compound :=
  match Entries.find? key c with
  | some (.list items) => items.filterMap Tag.compound?
  | _ => []

end Compound

/-! ## Merging -/

mutual

/-- `theirs` merged into `mine`. -/
def Compound.merge (mine : Compound) : Compound → Compound
  | [] => mine
  | (key, tag) :: rest =>
    Compound.merge (Entries.insert key (Tag.over (Entries.find? key mine) tag) mine) rest
termination_by structural theirs => theirs

/-- What stands where `old` stood once the tag is merged in. -/
def Tag.over (old : Option Tag) : Tag → Tag
  | .compound theirs =>
    match old with
    | some (.compound mine) => .compound (Compound.merge mine theirs)
    | _ => .compound theirs
  | .byte v => .byte v
  | .short v => .short v
  | .int v => .int v
  | .long v => .long v
  | .float v => .float v
  | .double v => .double v
  | .string s => .string s
  | .list items => .list items
termination_by structural tag => tag

end

/-! ## Equality -/

mutual

/-- Equality of tags. Floating-point numbers are compared as numbers: the two zeros are equal, and
not-a-number equals nothing. -/
def Tag.same : Tag → Tag → Bool
  | .byte a, .byte b => a == b
  | .short a, .short b => a == b
  | .int a, .int b => a == b
  | .long a, .long b => a == b
  | .float a, .float b => a.same b
  | .double a, .double b => a.same b
  | .string a, .string b => a == b
  | .list a, .list b => Tag.sameItems a b
  | .compound a, .compound b => Compound.same a b
  | _, _ => false
termination_by structural t => t

def Tag.sameItems : List Tag → List Tag → Bool
  | [], [] => true
  | a :: as, b :: bs => a.same b && Tag.sameItems as bs
  | _, _ => false
termination_by structural ts => ts

/-- Equality of compounds: the same names, and equal tags under each. -/
def Compound.same : List (String × Tag) → Compound → Bool
  | [], [] => true
  | (k, a) :: as, (l, b) :: bs => k == l && a.same b && Compound.same as bs
  | _, _ => false
termination_by structural c => c

end

/-! ## From JSON -/

mutual

/-- The tag of a JSON value. Null has none and is left out of lists and compounds; an integer takes
the narrower of two widths, and every other number is a double. -/
def Tag.ofJson : Json → Option Tag
  | .null => none
  | .bool b => some (.byte (if b then 1 else 0))
  | .number n =>
    match n.int64? with
    | some v =>
      match n.int32? with
      | some w => some (.int w)
      | none => some (.long v)
    | none => some (.double n.toDouble)
  | .string s => some (.string s)
  | .array items => some (.list (Tag.itemsOfJson items))
  | .object members => some (.compound (Compound.ofMembers members))
termination_by structural v => v

def Tag.itemsOfJson : List Json → List Tag
  | [] => []
  | v :: rest =>
    match Tag.ofJson v with
    | some tag => tag :: Tag.itemsOfJson rest
    | none => Tag.itemsOfJson rest
termination_by structural vs => vs

/-- The compound of an object's members. -/
def Compound.ofMembers : List (String × Json) → Compound
  | [] => []
  | (key, v) :: rest =>
    match Tag.ofJson v with
    | some tag => (key, tag) :: Compound.ofMembers rest
    | none => Compound.ofMembers rest
termination_by structural ms => ms

end

/-- The compound of an object; other values have none. -/
def Compound.ofJson (v : Json) : Option Compound := v.members?.map Compound.ofMembers

end EventRules
