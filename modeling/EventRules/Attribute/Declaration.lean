/-
The keywords a kind of rule understands, with the shape and type of their values, and the reading of
a rule document by them.
-/
import EventRules.Attribute.Map
import EventRules.Problem
namespace EventRules

/-- Whether a keyword takes one value or a list; a single value stands for a list of one. -/
inductive Shape where
  | single | multi
deriving DecidableEq

structure Declaration where
  shape : Shape
  type : ValueType
deriving DecidableEq

/-- The declarations of a kind of rule, by keyword. -/
abbrev DeclarationSet := Dict Declaration

namespace DeclarationSet

variable {t : ValueType}

def empty : DeclarationSet := Dict.empty

/-- Declares a keyword that takes one value. -/
def single (s : DeclarationSet) (key : Key t) : DeclarationSet := s.insert key.name ⟨.single, t⟩

/-- Declares a keyword that takes a list. -/
def multi (s : DeclarationSet) (key : Key t) : DeclarationSet := s.insert key.name ⟨.multi, t⟩

end DeclarationSet

namespace Declaration

/-- The values given under a keyword. A list under a single keyword is refused, unless any JSON
value will do. -/
def given (d : Declaration) (name : String) (v : Json) : Except Problem (List Json) :=
  match d.shape, v with
  | .single, .array items =>
    if d.type = .json then .ok [.array items] else .error (.expectedSingle name)
  | .multi, .array items => .ok items
  | _, v => .ok [v]

/-- The values given under a keyword if all are of its type. -/
def checked (d : Declaration) (name : String) (v : Json) : Except Problem (List Json) := do
  let values ← d.given name v
  match values.find? fun v => !d.type.accepts v with
  | some v => throw (.invalidValue name d.type v.print)
  | none => return values

end Declaration

namespace DeclarationSet

/-- The attributes of the members of a document, in their order. -/
def ofMembers (s : DeclarationSet) (m : AttributeMap) :
    List (String × Json) → Except Problem AttributeMap
  | [] => .ok m
  | (name, v) :: rest =>
    match s.get? name with
    | none => ofMembers s (m.fileUnknown name) rest
    | some d =>
      match d.checked name v with
      | .error p => .error p
      | .ok values => ofMembers s (m.fileAll name values) rest

/-- The attributes of a document, which must be an object. -/
def attributes (s : DeclarationSet) : Json → Except Problem AttributeMap
  | .object members => s.ofMembers .empty members
  | _ => .error .notAnObject

end DeclarationSet

end EventRules
