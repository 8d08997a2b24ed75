/-
An offset as a value and as a text that holds the value. Both are records of the same fields, so
they are accepted together and are the same offset; in the text each field comes as a change of the
offset without any, and as no field comes twice their order does not matter.
-/
import EventRules.Block.Offset
import EventRules.Proofs.Json.Record

namespace EventRules.BlockOffset

open Json

variable {members : List (String × Json)}

/-! ## Shifts -/

/-- The coordinates of a shift. -/
def shiftFields : Fields Int32 := [("x", int32?), ("y", int32?), ("z", int32?)]

theorem coordinate_some (v : Json) : coordinate (some v) = v.int32? := by
  cases v <;> rfl

theorem coordinate_of_made {made : List (String × Int32)} {name : String}
    (h : members.mapM shiftFields.make = some made)
    (known : Entries.find? name shiftFields = some int32?) :
    coordinate (Entries.find? name members) = some ((Entries.find? name made).getD 0) := by
  rcases Fields.find?_of_mapM_make h known with ⟨absent, not_made⟩ | ⟨v, a, there, value, made⟩
  · rw [absent, not_made]
    rfl
  · rw [there, made, coordinate_some, value]
    rfl

theorem shift_eq (v : Json) : shift (some v) = (shiftFields.given v).bind fun members => do
    return (← coordinate (Entries.find? "x" members), ← coordinate (Entries.find? "y" members),
      ← coordinate (Entries.find? "z" members)) := by
  have read : v.record? ["x", "y", "z"] = _ := Fields.record?_eq shiftFields (by decide) v
  rw [shift, read]
  cases shiftFields.given v <;> rfl

/-- A coordinate that is refused makes a shift refused. -/
theorem shift_eq_makeAll {v : Json} (h : v.Printable) :
    shift (some v) = (shiftFields.makeAll v).map fun made =>
      ((Entries.find? "x" made).getD 0, (Entries.find? "y" made).getD 0,
        (Entries.find? "z" made).getD 0) := by
  rw [shift_eq, Fields.makeAll]
  cases given : shiftFields.given v with
  | none => rfl
  | some members =>
    rw [Option.bind_some, Option.bind_some]
    cases all : members.mapM shiftFields.make with
    | some made =>
      rw [coordinate_of_made all rfl, coordinate_of_made all rfl, coordinate_of_made all rfl]
      rfl
    | none =>
      obtain ⟨distinct, known⟩ := Fields.given_spec (by decide) h given
      obtain ⟨name, f, w, field, there, refused⟩ := Fields.exists_refused distinct known all
      -- one of the three coordinates is refused, so there is no shift, whatever the others are
      obtain ⟨rfl, rfl⟩ | ⟨rfl, rfl⟩ | ⟨rfl, rfl⟩ :
          (name = "x" ∧ f = int32?) ∨ (name = "y" ∧ f = int32?) ∨ (name = "z" ∧ f = int32?) := by
        simpa [shiftFields] using Entries.mem_of_find? field
      all_goals rw [there, coordinate_some, refused]
      · rfl
      · cases coordinate (Entries.find? "x" members) <;> rfl
      · cases coordinate (Entries.find? "x" members) with
        | none => rfl
        | some x => cases coordinate (Entries.find? "y" members) <;> rfl

theorem shiftText_chars {v : Json} (h : v.Printable) {rest : List Char}
    (delimited : Delimited rest) :
    shiftText (v.chars ++ rest) = (shift (some v)).map fun made => (made, rest) := by
  have readers : ReadsFields [("x", int32Text), ("y", int32Text), ("z", int32Text)] shiftFields :=
    .cons ⟨rfl, fun _ => reads_int32Text⟩ (.cons ⟨rfl, fun _ => reads_int32Text⟩
      (.cons ⟨rfl, fun _ => reads_int32Text⟩ .nil))
  rw [shift_eq_makeAll h, shiftText]
  dsimp only
  rw [reads_recordText readers (by decide) h rest delimited]
  cases shiftFields.makeAll v <;> rfl

/-! ## Offsets -/

def changeShift (v : Json) : Option (BlockOffset → BlockOffset) :=
  (shift (some v)).map fun (dx, dy, dz) o => { o with dx := dx, dy := dy, dz := dz }

def changeLook (v : Json) : Option (BlockOffset → BlockOffset) :=
  v.bool?.map fun look o => { o with look := look }

/-- The parts of an offset, each as the change that it makes. -/
def offsetFields : Fields (BlockOffset → BlockOffset) :=
  [("offset", changeShift), ("look", changeLook)]

theorem eq_of_find?_offsetFields {name : String} {f : Json → Option (BlockOffset → BlockOffset)}
    (h : Entries.find? name offsetFields = some f) :
    (name = "offset" ∧ f = changeShift) ∨ (name = "look" ∧ f = changeLook) := by
  simpa [offsetFields] using Entries.mem_of_find? h

theorem readsFields_offset : ReadsFields fieldReaders offsetFields := by
  refine .cons ⟨rfl, fun v h rest delimited => ?_⟩ (.cons ⟨rfl, fun v h rest delimited => ?_⟩ .nil)
  · dsimp only
    rw [shiftText_chars h delimited, changeShift]
    cases shift (some v) <;> rfl
  · dsimp only
    rw [reads_boolText h rest delimited, changeLook]
    cases v.bool? <;> rfl

/-- The changes that are made of different fields: each part is what its field says, if it is given,
and as before if it is not. -/
theorem foldl_made {made : List (String × (BlockOffset → BlockOffset))}
    (distinct : (members.map (·.1)).Nodup) (h : members.mapM offsetFields.make = some made)
    (o : BlockOffset) :
    ∃ d look,
      (match Entries.find? "offset" members with
        | none => some (o.dx, o.dy, o.dz)
        | some v => shift (some v)) = some d ∧
      (match Entries.find? "look" members with
        | none => some o.look
        | some v => v.bool?) = some look ∧
      made.foldl (fun o f => f.2 o) o = ⟨d.1, d.2.1, d.2.2, look⟩ := by
  induction members generalizing made o with
  | nil =>
    cases h
    exact ⟨_, _, rfl, rfl, rfl⟩
  | cons m rest ih =>
    rw [List.map_cons, List.nodup_cons] at distinct
    obtain ⟨new, distinct⟩ := distinct
    rw [List.mapM_cons] at h
    obtain ⟨a, first, h⟩ := Option.bind_eq_some_iff.1 h
    obtain ⟨others, tail, h⟩ := Option.bind_eq_some_iff.1 h
    obtain ⟨f, found, named⟩ := Option.bind_eq_some_iff.1 first
    obtain ⟨change, value, rfl⟩ := Option.map_eq_some_iff.1 named
    cases h
    rw [List.foldl_cons]
    obtain ⟨d, look, shifted, looked, folded⟩ := ih distinct tail (change o)
    have absent := Entries.find?_eq_none_iff.2 new
    obtain ⟨name, v⟩ := m
    obtain ⟨rfl, rfl⟩ | ⟨rfl, rfl⟩ := eq_of_find?_offsetFields found
    · obtain ⟨⟨dx, dy, dz⟩, shift_v, rfl⟩ := Option.map_eq_some_iff.1 value
      rw [absent] at shifted
      cases shifted
      exact ⟨_, look, shift_v, looked, folded⟩
    · obtain ⟨b, bool_v, rfl⟩ := Option.map_eq_some_iff.1 value
      rw [absent] at looked
      cases looked
      exact ⟨d, _, shifted, bool_v, folded⟩

theorem ofValue_eq (v : Json) : ofValue v = (offsetFields.given v).bind fun members => do
    let (dx, dy, dz) ← shift (Entries.find? "offset" members)
    let look ← match Entries.find? "look" members with
      | none => some false
      | some v => v.bool?
    return ⟨dx, dy, dz, look⟩ := by
  have read : v.record? ["offset", "look"] = _ := Fields.record?_eq offsetFields (by decide) v
  rw [ofValue, read]
  cases offsetFields.given v <;> rfl

theorem ofValue_eq_makeAll {v : Json} (h : v.Printable) :
    ofValue v = (offsetFields.makeAll v).map fun made => made.foldl (fun o f => f.2 o) {} := by
  rw [ofValue_eq, Fields.makeAll]
  cases given : offsetFields.given v with
  | none => rfl
  | some members =>
    obtain ⟨distinct, known⟩ := Fields.given_spec (by decide) h given
    rw [Option.bind_some, Option.bind_some]
    cases all : members.mapM offsetFields.make with
    | some made =>
      obtain ⟨⟨dx, dy, dz⟩, look, shifted, looked, folded⟩ := foldl_made distinct all {}
      have moved : shift (Entries.find? "offset" members) = some (dx, dy, dz) := by
        rw [← shifted]
        cases Entries.find? "offset" members <;> rfl
      rw [Option.map_some, folded, moved]
      cases there : Entries.find? "look" members with
      | none =>
        rw [there] at looked
        cases looked
        rfl
      | some w =>
        rw [there] at looked
        simp only [bind, Option.bind_some, show w.bool? = some look from looked, pure]
    | none =>
      obtain ⟨name, f, w, field, there, refused⟩ := Fields.exists_refused distinct known all
      obtain ⟨rfl, rfl⟩ | ⟨rfl, rfl⟩ := eq_of_find?_offsetFields field
      · rw [changeShift, Option.map_eq_none_iff] at refused
        rw [there, refused]
        rfl
      · rw [changeLook, Option.map_eq_none_iff] at refused
        rw [there]
        simp only [bind, refused]
        cases shift (Entries.find? "offset" members) <;> rfl

/-- The printed form of a value is read as the offset of the value. -/
theorem reads_recordText {v : Json} (h : v.Printable) : Reads recordText chars ofValue v := by
  intro rest delimited
  rw [recordText, ofValue_eq_makeAll h]
  dsimp only
  rw [Json.reads_recordText readsFields_offset (by decide) h rest delimited]
  cases offsetFields.makeAll v <;> rfl

/-- The text that is printed of a value holds the offset of the value. -/
theorem readAll_print {v : Json} (h : v.Printable) :
    Json.readAll recordText v.print = ofValue v := by
  have read := reads_recordText h [] delimited_nil
  rw [List.append_nil] at read
  rw [Json.readAll, Json.print, String.toList_ofList, read]
  cases ofValue v <;> rfl

/-- An offset is accepted as a value if it is accepted as the text of the value, and is the same. -/
theorem ofJson_print {v : Json} (h : v.Printable) (other : ∀ s, v ≠ .string s) :
    (ofJson (.string v.print)).toOption = (ofJson v).toOption := by
  have value : (ofJson v).toOption = ofValue v := by
    cases v with
    | string s => exact absurd rfl (other s)
    | _ =>
      rw [ofJson]
      cases ofValue _ <;> rfl
      exact nofun
  rw [value, ofJson, readAll_print h]
  cases ofValue v <;> rfl

end EventRules.BlockOffset
