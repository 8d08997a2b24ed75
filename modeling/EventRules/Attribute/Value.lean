/-
The types of configuration values, and how a JSON value is read as one of them. Strings stand in for
numbers and truth values where they spell one, and numbers and truth values for strings.
-/
import EventRules.Json.Printer
import EventRules.Text.Blank
import EventRules.Text.Quoted
import EventRules.Decimal.Nearest
namespace EventRules

/-- What a configuration value is to be. -/
inductive ValueType where
  | integer | float | boolean | string | json
deriving DecidableEq

namespace ValueType

/-- The type's name in a message. -/
def text : ValueType → String
  | .integer => "an integer"
  | .float => "a number"
  | .boolean => "a boolean"
  | .string => "a string"
  | .json => "a JSON value"

/-- The values a configuration value is read as. -/
def Carrier : ValueType → Type
  | .integer => Int32
  | .float => Single
  | .boolean => Bool
  | .string => String
  | .json => Json

/-! ## Reading a value -/

def integer? : Json → Option Int32
  | .number n => n.int32?
  | .string s => do Decimal.int32? (← Decimal.readInt (Text.trim s.toList))
  | _ => none

/-- A JSON number is rounded to double precision first, a string at once to single precision. -/
def float? : Json → Option Single
  | .number n => some n.toDouble.convert
  | .string s => Decimal.readBinary (Text.trim s.toList)
  | _ => none

def boolean? : Json → Option Bool
  | .bool b => some b
  | .string s =>
    match String.ofList (Text.trim s.toList) with
    | "true" => some true
    | "false" => some false
    | _ => none
  | _ => none

def string? : Json → Option String
  | .string s => some s
  | .number n => some (String.ofList n.chars)
  | .bool true => some "true"
  | .bool false => some "false"
  | _ => none

/-- Any value but null. -/
def json? (v : Json) : Option Json := if v.isNull then none else some v

/-- A value read as one of the type. -/
def extract : (t : ValueType) → Json → Option t.Carrier
  | .integer => integer?
  | .float => float?
  | .boolean => boolean?
  | .string => string?
  | .json => json?

/-- Whether a value can be read as one of the type. -/
def accepts (t : ValueType) (v : Json) : Bool := (t.extract v).isSome

end ValueType

/-! ## Keys -/

/-- A configuration keyword with the type its values have. -/
structure Key (t : ValueType) where
  name : String
deriving DecidableEq

/-- The type's name in diagnostic output. -/
def ValueType.label : ValueType → String
  | .integer => "Integer"
  | .float => "Float"
  | .boolean => "Boolean"
  | .string => "String"
  | .json => "Json"

/-- The keyword on one line, for diagnostic output. -/
def Key.describe {t : ValueType} (key : Key t) : String :=
  "Key \x7b name: " ++ Text.quoted key.name ++ ", type: " ++ t.label ++ " \x7d"

end EventRules
