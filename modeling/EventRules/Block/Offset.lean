/-
Where a block condition looks: at the ground below the event or at the block the player looks at,
shifted by a constant. It is written as a record, or as a text that holds one.
-/
import EventRules.World.Event
import EventRules.Problem
import EventRules.Json.Record
namespace EventRules

/-- A shift, and whether it starts from the block that the player looks at. -/
structure BlockOffset where
  dx : Int32 := 0
  dy : Int32 := 0
  dz : Int32 := 0
  look : Bool := false
deriving DecidableEq

namespace BlockOffset

/-- The position looked at; without a player or a block in sight it starts from the ground. -/
def position (o : BlockOffset) (e : Event) : BlockPos :=
  let base :=
    if o.look then (e.player.bind e.world.lookedAt).getD e.ground else e.ground
  base.offset o.dx o.dy o.dz

/-! ## From a value -/

/-- A coordinate of the shift, zero if it is not given. -/
def coordinate : Option Json → Option Int32
  | none => some 0
  | some (.number n) => n.int32?
  | some _ => none

/-- The shift, nothing if it is not given. -/
def shift : Option Json → Option (Int32 × Int32 × Int32)
  | none => some (0, 0, 0)
  | some v => do
    match ← v.record? ["x", "y", "z"] with
    | [x, y, z] => return (← coordinate x, ← coordinate y, ← coordinate z)
    | _ => none

def ofValue (v : Json) : Option BlockOffset := do
  match ← v.record? ["offset", "look"] with
  | [offset, look] =>
    let (dx, dy, dz) ← shift offset
    let look ← match look with
      | none => some false
      | some v => v.bool?
    return ⟨dx, dy, dz, look⟩
  | _ => none

/-! ## From a text -/

/-- The coordinates in a written shift. -/
def shiftText : Json.Read (Int32 × Int32 × Int32) := fun cs => do
  let read := Json.int32Text
  let (fields, rest) ← Json.recordText [("x", read), ("y", read), ("z", read)] cs
  let get (name : String) : Int32 := (Entries.find? name fields).getD 0
  return ((get "x", get "y", get "z"), rest)

/-- A field of a written offset, as the change it makes. -/
def fieldReaders : List (String × Json.Read (BlockOffset → BlockOffset)) :=
  [("offset", fun cs => do
      let ((dx, dy, dz), rest) ← shiftText cs
      return (fun o => { o with dx := dx, dy := dy, dz := dz }, rest)),
    ("look", fun cs => do
      let (look, rest) ← Json.boolText cs
      return (fun o => { o with look := look }, rest))]

def recordText : Json.Read BlockOffset := fun cs => do
  let (fields, rest) ← Json.recordText fieldReaders cs
  return (fields.foldl (fun o f => f.2 o) {}, rest)

/-! ## Descriptions -/

/-- The offset of a description. -/
def ofJson (v : Json) : Except Problem BlockOffset :=
  let found :=
    match v with
    | .string text => Json.readAll recordText text
    | v => ofValue v
  match found with
  | some o => .ok o
  | none => .error (.badBlockOffset v.print)

end BlockOffset

end EventRules
