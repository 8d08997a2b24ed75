/-
Stacks of items, and blocks with the values of their properties.
-/
import EventRules.Tag.Basic
import EventRules.World.Basic
namespace EventRules

/-! ## Stacks -/

/-- A stack of one item, with its data tag and stored energy if it has them. -/
structure ItemStack where
  item : ResourceId
  count : Int32 := 1
  damage : Int32 := 0
  tag : Option Compound := none
  energy : Option Int64 := none

namespace ItemStack

def airItem : ResourceId := ⟨ResourceId.defaultSpace, "air"⟩

/-- The stack of nothing. -/
def nothing : ItemStack := { item := airItem, count := 0 }

/-- Whether there is nothing in the stack: a count that is not positive, or air. -/
def isEmpty (s : ItemStack) : Bool := s.count ≤ 0 || s.item = airItem

end ItemStack

/-! ## Blocks -/

/-- A block with the values of the properties it declares. -/
structure BlockState where
  block : ResourceId
  properties : Dict String
deriving DecidableEq

namespace BlockState

/-- A block that declares no property. -/
def plain (block : ResourceId) : BlockState := ⟨block, .empty⟩

def property? (s : BlockState) (name : String) : Option String := s.properties.get? name

/-- The state with a property, declared if it was not. -/
def withProperty (s : BlockState) (name value : String) : BlockState :=
  { s with properties := s.properties.insert name value }

/-- The state with a declared property overwritten; an undeclared one is not added. -/
def override (s : BlockState) (name value : String) : BlockState :=
  if s.properties.contains name then s.withProperty name value else s

end BlockState

end EventRules
