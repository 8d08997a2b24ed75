/-
The attributes of a rule document while the rule is built from it: values under the keywords the
rule kind declares, and the names it does not know. Taking a keyword removes it, so what is left in
the end was asked for by nobody.
-/
import EventRules.Attribute.Value
namespace EventRules

structure AttributeMap where
  values : Dict (List Json)
  unknown : NameSet

namespace AttributeMap

def empty : AttributeMap := ⟨.empty, .empty⟩

/-! ## Filing -/

/-- Files all values of a keyword, in place of what was there. -/
def fileAll (m : AttributeMap) (name : String) (values : List Json) : AttributeMap :=
  { m with values := m.values.insert name values }

/-- Remembers a name that is not declared; nothing is ever taken from under it. -/
def fileUnknown (m : AttributeMap) (name : String) : AttributeMap :=
  { m with unknown := m.unknown.insert name () }

/-- Appends a value to those of a keyword. -/
def append (m : AttributeMap) (name : String) (value : Json) : AttributeMap :=
  m.fileAll name ((m.values.get? name).getD [] ++ [value])

/-! ## Looking and taking -/

variable {t : ValueType}

def contains (m : AttributeMap) (key : Key t) : Bool := m.values.contains key.name

/-- The values under a name, nothing if it is not there. -/
def filed (m : AttributeMap) (name : String) : List Json := (m.values.get? name).getD []

/-- The first value of a keyword. -/
def get? (m : AttributeMap) (key : Key t) : Option t.Carrier :=
  (m.filed key.name).head?.bind t.extract

/-- Every value of a keyword that can be read. -/
def getAll (m : AttributeMap) (key : Key t) : List t.Carrier :=
  (m.filed key.name).filterMap t.extract

/-- The map without a name. -/
def drop (m : AttributeMap) (name : String) : AttributeMap :=
  { m with values := m.values.erase name }

/-- The map without any of the names. -/
def dropAll (m : AttributeMap) (names : List String) : AttributeMap := names.foldl drop m

/-- The first value of a keyword, and the map without the keyword. -/
def take (m : AttributeMap) (key : Key t) : Option t.Carrier × AttributeMap :=
  (m.get? key, m.drop key.name)

/-- Every value of a keyword if it is there, and the map without the keyword. -/
def takeAll (m : AttributeMap) (key : Key t) : Option (List t.Carrier) × AttributeMap :=
  ((m.values.get? key.name).map fun vs => vs.filterMap t.extract, m.drop key.name)

/-! ## What is left -/

/-- Whether everything was taken and nothing was unknown. -/
def isEmpty (m : AttributeMap) : Bool := m.values.isEmpty && m.unknown.isEmpty

/-- The names still there and the unknown ones, in order. -/
def keys (m : AttributeMap) : List String :=
  List.merge m.values.keys m.unknown.keys fun a b => a ≤ b

end AttributeMap

end EventRules
