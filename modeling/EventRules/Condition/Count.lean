/-
Count conditions: how many creatures of some kind there are, against an amount that may grow with
the players or with the chunks where creatures spawn. A description is an amount, a text
`amount,mob`, or an object with the fields `amount`, `mob`, `mod`, `perplayer`, `perchunk`,
`passive` and `hostile`.
-/
import EventRules.Fault
import EventRules.Specifier.Compact
import EventRules.Text.Quoted
import EventRules.World.Host
namespace EventRules

/-! ## Conditions -/

inductive CreatureCategory where
  | passive | hostile
deriving DecidableEq

inductive CountScale where
  | fixed | perPlayer | perChunk
deriving DecidableEq

/-- What is counted, and the amount it is compared with. Without species, mod and category it is
the species of the entity in the event. -/
structure CountInfo where
  amount : Int32
  species : List ResourceId := []
  space : Option String := none
  category : Option CreatureCategory := none
  scale : CountScale := .fixed
deriving DecidableEq

/-- The chunks around one player in which creatures spawn, a square of 17 by 17. -/
def chunkArea : Int64 := 289

namespace CountInfo

/-- The creatures of a mod. -/
def currentOfMod (population : Population) (w : World) (space : String) :
    Option CreatureCategory → Int32
  | some .hostile => population.hostileOfMod w space
  | some .passive => population.passiveOfMod w space
  | none => population.ofMod w space

/-- The sum of two counts, which 32 bits must hold. -/
def addCount (a b : Int32) : Except Fault Int32 :=
  let sum := a.toInt + b.toInt
  if Int32.minValue.toInt ≤ sum ∧ sum ≤ Int32.maxValue.toInt then .ok (.ofInt sum)
  else .error .countOverflow

/-- The creatures that are there now. Those of several species are added up in order. -/
def current (c : CountInfo) (population : Population) (e : Event) : Except Fault Int32 :=
  match c.space, c.category with
  | some space, category => .ok (currentOfMod population e.world space category)
  | none, some .hostile => .ok (population.hostile e.world)
  | none, some .passive => .ok (population.passive e.world)
  | none, none =>
    match c.species with
    | [] => .ok (population.ofSpecies e.world e.entity.species)
    | species => (species.map (population.ofSpecies e.world)).foldlM addCount 0

/-- The amount scaled by the players, or by the spawning chunks in units of one player's area. -/
def threshold (c : CountInfo) (population : Population) (e : Event) : Int64 :=
  let amount := c.amount.toInt64
  match c.scale with
  | .fixed => amount
  | .perPlayer => amount * (population.players e.world).toInt64
  | .perChunk => amount * (population.spawnChunks e.world).toInt64 / chunkArea

/-! ## Fields of an object -/

/-- The fields of an object, as far as they are given. -/
structure Fields where
  amount : Option Double := none
  mobs : List String := []
  space : Option String := none
  perPlayer : Bool := false
  perChunk : Bool := false
  passive : Bool := false
  hostile : Bool := false

/-- A value of a wrong kind as it is named in a message. -/
def found : Json → String
  | .null => "null"
  | .bool true => "boolean `true`"
  | .bool false => "boolean `false`"
  | .number (.integer n) => "integer `" ++ Decimal.text n ++ "`"
  | .number (.float x) =>
    "floating point `" ++ String.ofList (Number.doubleChars x) ++ "`"
  | .string s => "string " ++ Text.quoted s
  | .array _ => "sequence"
  | .object _ => "map"

def wrongType (v : Json) (expected : String) : String :=
  "invalid type: " ++ found v ++ ", expected " ++ expected

def amountField : Json → Except String Double
  | .number n => .ok n.toDouble
  | v => .error (wrongType v "f64")

def flagField : Json → Except String Bool
  | .bool b => .ok b
  | v => .error (wrongType v "a boolean")

/-- A mod, or null for none. -/
def modField : Json → Except String (Option String)
  | .null => .ok none
  | .string s => .ok (some s)
  | v => .error (wrongType v "a string")

/-- A mob or a list of mobs, or null for none. -/
def mobField (v : Json) : Except String (List String) :=
  let names : Option (List String) :=
    match v with
    | .null => some []
    | .string s => some [s]
    | .array items => items.mapM Json.string?
    | _ => none
  match names with
  | some names => .ok names
  | none => .error "data did not match any variant of untagged enum OneOrMany"

/-- One more field read. -/
def Fields.read (f : Fields) (name : String) (v : Json) : Except String Fields :=
  match name with
  | "amount" => (amountField v).map fun x => { f with amount := some x }
  | "mob" => (mobField v).map fun names => { f with mobs := names }
  | "mod" => (modField v).map fun space => { f with space := space }
  | "perplayer" => (flagField v).map fun b => { f with perPlayer := b }
  | "perchunk" => (flagField v).map fun b => { f with perChunk := b }
  | "passive" => (flagField v).map fun b => { f with passive := b }
  | "hostile" => (flagField v).map fun b => { f with hostile := b }
  | _ =>
    .error ("unknown field `" ++ name ++ "`, expected one of `amount`, " ++
      "`mob`, `mod`, `perplayer`, `perchunk`, " ++
      "`passive`, `hostile`")

/-- All fields of an object, in the order of their names; the first problem refuses it. -/
def Fields.ofMembers (f : Fields) : List (String × Json) → Except String Fields
  | [] => .ok f
  | (name, v) :: rest => do
    let f ← f.read name v
    f.ofMembers rest

/-- The amount and the other fields; the amount must be there. -/
def Fields.ofObject (members : List (String × Json)) : Except String (Double × Fields) := do
  let f ← Fields.ofMembers {} members
  match f.amount with
  | some amount => return (amount, f)
  | none => throw "missing field `amount`"

/-- The contradiction between the fields, if there is one. -/
def Fields.conflict? (f : Fields) : Option CountConflict :=
  if f.perChunk && f.perPlayer then some .perChunkAndPerPlayer
  else if f.space.isSome && !f.mobs.isEmpty then some .modAndMob
  else if f.passive && f.hostile then some .passiveAndHostile
  else if (f.passive || f.hostile) && !f.mobs.isEmpty then some .categoryAndMob
  else none

/-! ## Descriptions -/

/-- An entity by its name, which must be known. -/
def knownEntity (registry : Registry) (name : String) : Except Problem ResourceId :=
  let id := ResourceId.parse name
  if registry.hasEntity id then .ok id else .error (.unknownEntity name)

/-- The condition of an object's fields. -/
def ofFields (registry : Registry) (amount : Double) (f : Fields) : Except Problem CountInfo := do
  if let some conflict := f.conflict? then throw (.invalidCount conflict)
  let species ← f.mobs.mapM (knownEntity registry)
  return {
    amount := amount.toInt32
    species := species
    space := f.space
    category := if f.passive then some .passive else if f.hostile then some .hostile else none
    scale := if f.perPlayer then .perPlayer else if f.perChunk then .perChunk else .fixed }

/-- The condition of a description. -/
def ofJson (registry : Registry) : Json → Except Problem CountInfo
  | .number n => .ok { amount := n.toDouble.toInt32 }
  | .string text =>
    match CountSpecifier.parse text with
    | .error _ => .error (.badCount text "bad amount")
    | .ok s => do
      let species ← s.mob.toList.mapM (knownEntity registry)
      return { amount := s.amount, species := species }
  | .object members =>
    match Fields.ofObject members with
    | .error reason => .error (.badCount (Json.object members).print reason)
    | .ok (amount, f) => ofFields registry amount f
  | v => .error (.badCount v.print "expected a number, a string or an object")

end CountInfo

end EventRules
