/-
Records in JSON. A record is written as an object with its fields by name, others being ignored, or
as an array with the first fields in their order. It is read from a value, or from a text; a text
must not name a field twice.
-/
import EventRules.Json.Skip
namespace EventRules.Json

/-! ## From a value -/

/-- The value of each field of a record, `none` for a missing one. -/
def record? (names : List String) : Json → Option (List (Option Json))
  | .object members => some (names.map fun name => Entries.find? name members)
  | .array items =>
    if names.length < items.length then none
    else some ((List.range names.length).map fun (i : Nat) => items[i]?)
  | _ => none

/-! ## From a text -/

variable {α : Type}

/-- The fields of a record in an object, from behind its brace, each read in its own way. -/
def namedFields (readers : List (String × Read α)) : Read (List (String × α)) := fun cs => do
  let value (name : String) : Read (Option α) := fun cs =>
    match Entries.find? name readers with
    | some read => (read cs).map fun (v, r) => (some v, r)
    | none => (skip cs).map fun (_, r) => (none, r)
  let (members, rest) ← enclosed (member quotedString value) '\x7d' cs
  let fields := members.filterMap fun (name, v) => v.map fun v => (name, v)
  if (fields.map (·.1)).Nodup then return (fields, rest) else none

/-- Items of an array in the order of their readers, no more than there are readers. -/
def orderedItems : List (String × Read α) → Read (List (String × α))
  | [], _ => none
  | (name, read) :: readers, cs => do
    let (v, rest) ← read cs
    match skipBlanks rest with
    | ',' :: rest =>
      let (more, rest) ← orderedItems readers rest
      return ((name, v) :: more, rest)
    | ']' :: rest => return ([(name, v)], rest)
    | _ => none

/-- A record: its fields that are there, with their names. -/
def recordText (readers : List (String × Read α)) : Read (List (String × α)) := fun cs =>
  match skipBlanks cs with
  | '\x7b' :: rest => namedFields readers rest
  | '[' :: rest =>
    match skipBlanks rest with
    | ']' :: rest => some ([], rest)
    | _ => orderedItems readers rest
  | _ => none

/-- A truth value. -/
def boolText : Read Bool := fun cs =>
  match skipBlanks cs with
  | 't' :: 'r' :: 'u' :: 'e' :: rest => some (true, rest)
  | 'f' :: 'a' :: 'l' :: 's' :: 'e' :: rest => some (false, rest)
  | _ => none

/-- An integer literal that fits 32 bits. -/
def int32Text : Read Int32 := fun cs => do
  let (l, rest) ← literal (skipBlanks cs)
  let n ← Number.ofLiteral l
  let i ← n.int32?
  return (i, rest)

/-- All of a text, read by `read`. -/
def readAll (read : Read α) (text : String) : Option α :=
  match read text.toList with
  | some (v, rest) => if (skipBlanks rest).isEmpty then some v else none
  | none => none

end EventRules.Json
