/-
JSON values: their type, and the views of a value as one of its kinds. The members of an object
stand in increasing order of their names, each name once; `Json.Ordered` says so.
-/
import EventRules.Dict
import EventRules.Decimal.Digits
import EventRules.Binary.Arithmetic
namespace EventRules

/-- A JSON number: written as an integer that fits 64 bits, or any other. -/
inductive Number where
  | integer (n : Int)
  | float (x : Double)

/-- A JSON value. -/
inductive Json where
  | null
  | bool (b : Bool)
  | number (n : Number)
  | string (s : String)
  | array (items : List Json)
  | object (members : List (String × Json))

/-! ## Numbers -/

namespace Number

/-- The value as a signed 64-bit integer; a float never is one. -/
def int64? : Number → Option Int64
  | .integer n => Decimal.int64? n
  | .float _ => none

/-- The value as a signed 32-bit integer. -/
def int32? : Number → Option Int32
  | .integer n => Decimal.int32? n
  | .float _ => none

/-- The value in double precision, rounded if it is a long integer. -/
def toDouble : Number → Double
  | .integer n => .ofInt n
  | .float x => x

end Number

/-! ## Views -/

namespace Json

def string? : Json → Option String
  | .string s => some s
  | _ => none

def bool? : Json → Option Bool
  | .bool b => some b
  | _ => none

def members? : Json → Option (List (String × Json))
  | .object members => some members
  | _ => none

def isNull : Json → Bool
  | .null => true
  | _ => false

/-- A list of values as it is, a value of another kind as the only one of a list. -/
def listed : Json → List Json
  | .array items => items
  | v => [v]

/-! ## Order of members -/

mutual

/-- Every object in the value lists its members by strictly increasing name. -/
def Ordered : Json → Prop
  | .null => True
  | .bool _ => True
  | .number _ => True
  | .string _ => True
  | .array items => AllOrdered items
  | .object members => Entries.Ordered members ∧ MembersOrdered members
termination_by structural v => v

def AllOrdered : List Json → Prop
  | [] => True
  | v :: rest => v.Ordered ∧ AllOrdered rest
termination_by structural vs => vs

def MembersOrdered : List (String × Json) → Prop
  | [] => True
  | (_, v) :: rest => v.Ordered ∧ MembersOrdered rest
termination_by structural ms => ms

end

end Json

end EventRules
