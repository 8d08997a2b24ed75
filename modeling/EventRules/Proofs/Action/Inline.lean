/-
Documents inside a document, given as they are or as the text that is printed of them. An offset in
a text is read from the text field by field, a data tag in a text by way of the value that the text
holds, and in a descriptor the text stands behind the item; each of these gives what the value
itself gives.
-/
import EventRules.Action.Compile
import EventRules.Proofs.Block.Offset
import EventRules.Proofs.Problem
import EventRules.Proofs.Rule.Kind
import EventRules.Proofs.Specifier.Compact

namespace EventRules

/-! ## Ends of printed values -/

theorem Json.joined_ne_nil {α : Type} {write : α → List Char} {close : Char} (as : List α) :
    joined write close as ≠ [] := by
  cases as <;> exact List.cons_ne_nil _ _

theorem Json.ended_joined {α : Type} {write : α → List Char} {close : Char}
    (solid : Text.isBlank close = false) (as : List α) : Text.Ended (joined write close as) := by
  induction as with
  | nil => exact Text.ended_cons solid fun _ h => by cases h
  | cons a rest ih => exact ih.behind (joined_ne_nil rest) (',' :: write a)

/-- A printed object ends with its brace. -/
theorem Json.ended_object (members : List (String × Json)) :
    Text.Ended (Json.object members).chars := by
  cases members with
  | nil => decide
  | cons m rest =>
    rw [chars, membersChars_eq, ← List.cons_append]
    exact (ended_joined rfl rest).behind (joined_ne_nil rest) _

namespace Action

open Specifier

variable {registry : Registry} {v : Json} {members : List (String × Json)}

/-! ## Data tags -/

theorem compoundOf_print (h : v.Printable) (deep : v.depth ≤ Json.depthLimit) :
    compoundOf (.string v.print) = Compound.ofJson v := by
  show (Json.parse v.print).bind Compound.ofJson = _
  rw [Json.parse_print h deep]
  rfl

theorem tagAction_print (h : (Json.object members).Printable)
    (deep : (Json.object members).depth ≤ Json.depthLimit) :
    tagAction (some (.string (Json.object members).print)) =
      tagAction (some (.object members)) := by
  rw [tagAction, compoundOf_print h deep]
  rfl

theorem ofMembers_nbt (x : Json) (fields : List (String × Json)) :
    WeightedItem.ofMembers (Entries.insert "nbt" x fields) =
      (WeightedItem.ofMembers fields).map fun w => { w with nbt := nbtField (some x) } := by
  have other {name : String} (h : "nbt" ≠ name) :
      Entries.find? name (Entries.insert "nbt" x fields) = Entries.find? name fields := by
    rw [Entries.find?_insert, if_neg h]
  have own : Entries.find? "nbt" (Entries.insert "nbt" x fields) = some x := by
    rw [Entries.find?_insert, if_pos rfl]
  simp only [WeightedItem.ofMembers, own, other (show "nbt" ≠ "item" by decide),
    other (show "nbt" ≠ "weight" by decide), other (show "nbt" ≠ "count" by decide), bind, pure,
    Option.map_bind, Option.map_some, Function.comp_def]

/-- A data tag of a weighted item is accepted as the same compound in both forms. -/
theorem weightedStack_print (h : (Json.object members).Printable)
    (deep : (Json.object members).depth ≤ Json.depthLimit) (fields : List (String × Json)) :
    (weightedStack registry
        (.object (Entries.insert "nbt" (.string (Json.object members).print) fields))).toOption =
      (weightedStack registry
        (.object (Entries.insert "nbt" (.object members) fields))).toOption := by
  rw [weightedStack, weightedStack, ofMembers_nbt, ofMembers_nbt]
  cases WeightedItem.ofMembers fields with
  | none => rfl
  | some w =>
    have same : ({ w with nbt := nbtField (some (.string (Json.object members).print)) } :
          WeightedItem).stack registry =
        ({ w with nbt := nbtField (some (.object members)) } : WeightedItem).stack registry := by
      simp only [WeightedItem.stack, nbtField, compoundOf_print h deep]
      rfl
    simp only [Option.map_some, same]

/-! ## Descriptors -/

theorem describedStack_tag {id : String} (word : Word (fun c => c == '@' || c == '/') id)
    (known : registry.hasItem (.parse id) = true) {raw : String}
    (ended : Text.Ended raw.toList) {tag : Compound} (read : Compound.parse? raw = some tag) :
    describedStack registry (id ++ "/" ++ raw) =
      .ok { item := .parse id, tag := some tag } := by
  have text : (⟨id, none, some raw⟩ : ItemDescriptor).text = id ++ "/" ++ raw := by
    apply String.toList_injective
    simp [ItemDescriptor.text, ItemDescriptor.endText, announced]
  have parsed := ItemDescriptor.parse_text (d := ⟨id, none, some raw⟩)
    ⟨word, by rintro _ ⟨⟩; exact ended⟩
  rw [text] at parsed
  rw [describedStack, parsed]
  simp [known, read]

theorem describedStack_id {id : String} (word : Word (fun c => c == '@' || c == '/') id)
    (known : registry.hasItem (.parse id) = true) :
    describedStack registry id = .ok { item := .parse id } := by
  have text : (⟨id, none, none⟩ : ItemDescriptor).text = id := by
    apply String.toList_injective
    simp [ItemDescriptor.text, ItemDescriptor.endText, announced]
  have parsed := ItemDescriptor.parse_text (d := ⟨id, none, none⟩)
    ⟨word, by rintro _ ⟨⟩⟩
  rw [text] at parsed
  rw [describedStack, parsed]
  simp [known]

theorem ended_print (members : List (String × Json)) :
    Text.Ended (Json.object members).print.toList := by
  rw [Json.print, String.toList_ofList]
  exact Json.ended_object members

/-- An item with a data tag. -/
def tagged (id : String) (tag : Json) : Json := .object [("item", .string id), ("nbt", tag)]

/-- A known item with a data tag in its descriptor is the item with the tag beside it. -/
theorem weightedStack_tagged {id : String} (word : Word (fun c => c == '@' || c == '/') id)
    (known : registry.hasItem (.parse id) = true) (h : (Json.object members).Printable)
    (deep : (Json.object members).depth ≤ Json.depthLimit) :
    ∃ s, weightedStack registry (tagged id (.object members)) = .ok (s, .one) ∧
      weightedStack registry (.string (id ++ "/" ++ (Json.object members).print)) =
        .ok (s, .one) := by
  have written := describedStack_tag word known (ended_print members) (compoundOf_print h deep)
  refine ⟨{ item := .parse id, tag := some (Compound.ofMembers members) }, ?_, ?_⟩
  · have read : WeightedItem.ofMembers [("item", .string id), ("nbt", .object members)] =
        some ⟨id, .one, none, some (.object members)⟩ := rfl
    rw [tagged, weightedStack, read]
    simp only [WeightedItem.stack, describedStack_id word known, bind, Except.bind, compoundOf,
      Compound.ofJson, Json.members?, Option.map_some]
    rfl
  · rw [weightedStack, written]
    rfl

theorem describedStack_no_id (registry : Registry) {raw : String} (ended : Text.Ended raw.toList) :
    describedStack registry ("" ++ "/" ++ raw) =
      .error (.badItemDescription ("" ++ "/" ++ raw)) := by
  have chars : ("" ++ "/" ++ raw).toList = '/' :: raw.toList := by simp
  have bare : Text.Bare ("" ++ "/" ++ raw).toList := by
    rw [chars]
    exact ⟨by rintro _ ⟨⟩; rfl, Text.ended_cons rfl ended⟩
  obtain ⟨e, refused⟩ : ∃ e, ItemDescriptor.parse ("" ++ "/" ++ raw) = .error e := by
    rw [ItemDescriptor.parse, whole, Text.trim_of_bare bare, chars]
    exact ⟨_, rfl⟩
  rw [describedStack, refused]

/-- Without an id there is no stack in either form. -/
theorem weightedStack_no_id (registry : Registry) (tag : Json) {raw : String}
    (ended : Text.Ended raw.toList) :
    (weightedStack registry (.string ("" ++ "/" ++ raw))).toOption =
      (weightedStack registry (tagged "" tag)).toOption := by
  have read : WeightedItem.ofMembers [("item", .string ""), ("nbt", tag)] =
      some ⟨"", .one, none, nbtField (some tag)⟩ := rfl
  have refused : describedStack registry "" = .error (.badItemDescription "") := rfl
  rw [weightedStack, describedStack_no_id registry ended, tagged, weightedStack, read]
  simp only [WeightedItem.stack, refused]
  rfl

/-- Documents inside a document agree with the texts that are printed of them. An offset is accepted
as a value if it is accepted as a text, and is the same; a data tag, of a mob or of a weighted item,
is the same compound; and an item with a data tag is the same stack, with the same weight, as the
item with the text behind it. -/
theorem inline_agrees_with_text {v : Json} (printable : v.Printable)
    (deep : v.depth ≤ Json.depthLimit) :
    (∀ items, v = .array items → (BlockOffset.ofJson (.string v.print)).toOption =
      (BlockOffset.ofJson v).toOption) ∧
    ∀ members, v = .object members →
      (BlockOffset.ofJson (.string v.print)).toOption = (BlockOffset.ofJson v).toOption ∧
      tagAction (some (.string v.print)) = tagAction (some v) ∧
      ∀ registry : Registry,
        (∀ fields, (weightedStack registry
            (.object (Entries.insert "nbt" (.string v.print) fields))).toOption =
          (weightedStack registry (.object (Entries.insert "nbt" v fields))).toOption) ∧
        ∀ id, Text.Bare id.toList → (∀ c ∈ id.toList, c ≠ '@' ∧ c ≠ '/') →
          registry.hasItem (.parse id) = true →
            (weightedStack registry (.string (id ++ "/" ++ v.print))).toOption =
                (weightedStack registry (tagged id v)).toOption ∧
              (id ≠ "" → ∃ s, weightedStack registry (tagged id v) = .ok (s, .one)) := by
  constructor
  · rintro items rfl
    exact BlockOffset.ofJson_print printable nofun
  · rintro members rfl
    refine ⟨BlockOffset.ofJson_print printable nofun, tagAction_print printable deep,
      fun registry => ⟨weightedStack_print printable deep, fun id bare plain known => ?_⟩⟩
    by_cases empty : id = ""
    · subst empty
      exact ⟨weightedStack_no_id registry _ (ended_print members), fun h => absurd rfl h⟩
    · have word : Word (fun c => c == '@' || c == '/') id :=
        ⟨empty, bare, fun c hc => by simpa using plain c hc⟩
      obtain ⟨s, made, written⟩ := weightedStack_tagged word known printable deep
      rw [written, made]
      exact ⟨rfl, fun _ => ⟨s, rfl⟩⟩

/-- Where to look; an offset has no ratio, and its shift is one block down. -/
def glance : Json := .object
  [("look", .bool true), ("offset", .array [.number (.integer 0), .number (.integer (-1))]),
    ("ratio \"", .number (.float (.ofScaled false 1 (-1))))]

theorem inline_agrees_with_text_glance :
    (BlockOffset.ofJson (.string glance.print)).toOption = some ⟨0, -1, 0, true⟩ ∧
    tagAction (some (.string glance.print)) = tagAction (some glance) ∧
    ∃ s, weightedStack Host.bare.registry (tagged "bow" glance) = .ok (s, .one) ∧
      (weightedStack Host.bare.registry (.string ("bow" ++ "/" ++ glance.print))).toOption =
        some (s, .one) := by
  have increasing : Entries.Ordered (glance.members?.getD []) := by
    unfold Entries.Ordered
    decide +kernel
  have printable : glance.Printable :=
    ⟨⟨increasing, trivial, ⟨trivial, trivial, trivial⟩, trivial, trivial⟩,
      trivial, ⟨rfl, rfl, trivial⟩, rfl, trivial⟩
  obtain ⟨offset, tag, stack⟩ := (inline_agrees_with_text printable (by decide)).2 _ rfl
  obtain ⟨same, given⟩ := (stack Host.bare.registry).2 "bow" (by decide) (by simp) rfl
  obtain ⟨s, made⟩ := given (by decide)
  rw [made] at same
  exact ⟨offset.trans (by decide +kernel), tag, s, made, same⟩

end Action

end EventRules
