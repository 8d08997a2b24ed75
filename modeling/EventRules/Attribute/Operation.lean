/-
What is done with attributes over time: an operation files, looks at or takes the values of one
keyword. Some operations hand what they take to a handler; a handler gets a value and never sees the
attributes.
-/
import EventRules.Attribute.Map
namespace EventRules.AttributeMap

variable {t : ValueType} {α : Type}

/-! ## Handing over -/

/-- Takes a keyword and hands its first value, if there is one, to the handler. -/
def consume (m : AttributeMap) (key : Key t) (handler : t.Carrier → α) : Option α × AttributeMap :=
  let (value, rest) := m.take key
  (value.map handler, rest)

/-- Like `consume`, with something else to do if there is no value. -/
def consumeOrElse (m : AttributeMap) (key : Key t) (handler : t.Carrier → α)
    (otherwise : Unit → α) : α × AttributeMap :=
  match m.take key with
  | (some value, rest) => (handler value, rest)
  | (none, rest) => (otherwise (), rest)

/-- Takes a keyword and hands all its values, if it is there, to the handler. -/
def consumeAll (m : AttributeMap) (key : Key t) (handler : List t.Carrier → α) :
    Option α × AttributeMap :=
  let (values, rest) := m.takeAll key
  (values.map handler, rest)

/-- Takes a keyword that another one reads as its companion. -/
def fetch (m : AttributeMap) (key : Key t) : Option t.Carrier × AttributeMap := m.take key

/-! ## Operations -/

/-- An operation with its keyword, and the value it files or the handlers it calls. -/
inductive Operation (α : Type) where
  | insert {t : ValueType} (key : Key t) (value : Json)
  | get {t : ValueType} (key : Key t)
  | getAll {t : ValueType} (key : Key t)
  | take {t : ValueType} (key : Key t)
  | takeAll {t : ValueType} (key : Key t)
  | consume {t : ValueType} (key : Key t) (handler : t.Carrier → α)
  | consumeOrElse {t : ValueType} (key : Key t) (handler : t.Carrier → α) (otherwise : Unit → α)
  | consumeAll {t : ValueType} (key : Key t) (handler : List t.Carrier → α)
  | fetch {t : ValueType} (key : Key t)

/-- The name of an operation's keyword. -/
def Operation.name : Operation α → String
  | .insert key _ => key.name
  | .get key => key.name
  | .getAll key => key.name
  | .take key => key.name
  | .takeAll key => key.name
  | .consume key _ => key.name
  | .consumeOrElse key _ _ => key.name
  | .consumeAll key _ => key.name
  | .fetch key => key.name

/-- The attributes after an operation. -/
def after (m : AttributeMap) : Operation α → AttributeMap
  | .insert key value => m.append key.name value
  | .get _ => m
  | .getAll _ => m
  | .take key => (m.take key).2
  | .takeAll key => (m.takeAll key).2
  | .consume key handler => (m.consume key handler).2
  | .consumeOrElse key handler otherwise => (m.consumeOrElse key handler otherwise).2
  | .consumeAll key handler => (m.consumeAll key handler).2
  | .fetch key => (m.fetch key).2

/-- The attributes after a sequence of operations. -/
def run (m : AttributeMap) (ops : List (Operation α)) : AttributeMap := ops.foldl after m

end EventRules.AttributeMap
