/-
The other compact forms: item descriptors `id@damage/tag`, states `name=value`, counts `amount,mob`
and potions `effect,duration,amplifier`. Numbers fit 32 bits.
-/
import EventRules.Specifier.Scan
namespace EventRules

namespace Specifier

def smallNumber : Scan Int32 := integer Decimal.int32?

/-- A part behind the character that announces it. -/
def after {α : Type} (c : Char) (scan : Scan α) : Scan α := fun cs => do
  let (_, rest) ← mark c cs
  scan rest

end Specifier

open Specifier

/-! ## Item descriptors -/

/-- The parts of an item descriptor. -/
structure ItemDescriptor where
  id : String
  damage : Option Int32
  tag : Option String
deriving DecidableEq

def ItemDescriptor.scan : Scan ItemDescriptor := fun cs => do
  let stops (c : Char) : Bool := c == '@' || c == '/'
  if (cs.takeWhile fun c => !stops c).isEmpty then throw cs
  let id := String.ofList (Text.trim (cs.takeWhile fun c => !stops c))
  let (damage, rest) ← optional (after '@' smallNumber) (cs.dropWhile fun c => !stops c)
  let (tag, rest) ← optional (after '/' fun cs => .ok (String.ofList cs, [])) rest
  return (⟨id, damage, tag⟩, rest)

/-- Reads an item descriptor. -/
def ItemDescriptor.parse : String → Except SpecifierError ItemDescriptor :=
  whole .item ItemDescriptor.scan

/-! ## States -/

/-- A state that is to have a value. -/
structure StateSpecifier where
  name : String
  value : String
deriving DecidableEq

def StateSpecifier.scan : Scan StateSpecifier := fun cs => do
  let (name, rest) ← upTo (· == '=') cs
  let (_, rest) ← mark '=' rest
  let (value, rest) ← upTo (fun _ => false) rest
  return (⟨name, value⟩, rest)

/-- Reads a state specifier. -/
def StateSpecifier.parse : String → Except SpecifierError StateSpecifier :=
  whole .state StateSpecifier.scan

/-! ## Counts -/

/-- An amount, and the mob it is an amount of. -/
structure CountSpecifier where
  amount : Int32
  mob : Option String
deriving DecidableEq

def CountSpecifier.scan : Scan CountSpecifier := fun cs => do
  let (amount, rest) ← smallNumber cs
  let (mob, rest) ← optional (after ',' restTrimmed) rest
  return (⟨amount, mob⟩, rest)

/-- Reads a count specifier. -/
def CountSpecifier.parse : String → Except SpecifierError CountSpecifier :=
  whole .count CountSpecifier.scan

/-! ## Potions -/

/-- A potion effect by name, with its duration and strength. -/
structure PotionSpecifier where
  effect : String
  duration : Int32
  amplifier : Int32
deriving DecidableEq

def PotionSpecifier.scan : Scan PotionSpecifier := fun cs => do
  let (effect, rest) ← upTo (· == ',') cs
  let (duration, rest) ← after ',' smallNumber rest
  let (amplifier, rest) ← after ',' smallNumber rest
  return (⟨effect, duration, amplifier⟩, rest)

/-- Reads a potion specifier. -/
def PotionSpecifier.parse : String → Except SpecifierError PotionSpecifier :=
  whole .potion PotionSpecifier.scan

end EventRules
