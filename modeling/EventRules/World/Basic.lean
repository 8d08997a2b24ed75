/-
The small vocabulary of the game world: identifiers with a namespace, block positions, the faces of
a block, difficulties, and the equipment slots of a living being.
-/
import EventRules.Text.Case
import EventRules.Binary.Arithmetic
import EventRules.Decimal.Digits
namespace EventRules

/-! ## Identifiers -/

/-- An identifier such as `minecraft:zombie`: the namespace is the mod that owns the path. -/
structure ResourceId where
  space : String
  path : String
deriving DecidableEq

namespace ResourceId

/-- The namespace of an identifier that names none. -/
def defaultSpace : String := "minecraft"

/-- Splits at the first colon; without one the namespace is the default. -/
def parse (text : String) : ResourceId :=
  let cs := text.toList
  match cs.dropWhile (· != ':') with
  | [] => ⟨defaultSpace, text⟩
  | _ :: path => ⟨String.ofList (cs.takeWhile (· != ':')), String.ofList path⟩

def text (id : ResourceId) : String := id.space ++ ":" ++ id.path

/-- Namespace first, then path. -/
def order (a b : ResourceId) : Ordering :=
  if a.space < b.space then .lt
  else if b.space < a.space then .gt
  else if a.path < b.path then .lt
  else if b.path < a.path then .gt
  else .eq

end ResourceId

/-! ## Positions -/

/-- Block coordinates. -/
structure BlockPos where
  x : Int32
  y : Int32
  z : Int32
deriving DecidableEq

namespace BlockPos

/-- The block a point lies in. -/
def containing (x y z : Double) : BlockPos := ⟨x.floorInt32, y.floorInt32, z.floorInt32⟩

/-- The position shifted; coordinates wrap around. -/
def offset (p : BlockPos) (dx dy dz : Int32) : BlockPos := ⟨p.x + dx, p.y + dy, p.z + dz⟩

def below (p : BlockPos) : BlockPos := p.offset 0 (-1) 0

/-- The squared distance between two positions, in double precision. -/
def distanceSquared (p q : BlockPos) : Double :=
  let along (a b : Int32) : Double :=
    let d : Double := .ofInt a.toInt - .ofInt b.toInt
    d * d
  along p.x q.x + along p.y q.y + along p.z q.z

def text (p : BlockPos) : String :=
  "(" ++ Decimal.text p.x.toInt ++ ", " ++ Decimal.text p.y.toInt ++ ", " ++
    Decimal.text p.z.toInt ++ ")"

end BlockPos

/-! ## Named choices -/

/-- A face of a block. -/
inductive Direction where
  | down | up | north | south | west | east
deriving DecidableEq

/-- A direction by its name, in any mixture of cases. -/
def Direction.ofName? (name : String) : Option Direction :=
  match Text.lowerAscii name with
  | "down" => some .down
  | "up" => some .up
  | "north" => some .north
  | "south" => some .south
  | "west" => some .west
  | "east" => some .east
  | _ => none

inductive Difficulty where
  | peaceful | easy | normal | hard
deriving DecidableEq

/-- A difficulty by its name, in any mixture of cases. -/
def Difficulty.ofName? (name : String) : Option Difficulty :=
  match Text.lowerAscii name with
  | "peaceful" => some .peaceful
  | "easy" => some .easy
  | "normal" => some .normal
  | "hard" => some .hard
  | _ => none

inductive EquipmentSlot where
  | mainHand | offHand | head | chest | legs | feet
deriving DecidableEq

end EventRules
