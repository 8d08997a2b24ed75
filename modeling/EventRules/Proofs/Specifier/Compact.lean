/-
The compact specifiers in their written form: the parts with the characters that announce them
between. Each part is read back as it was written if it has no blank at an end where blanks are
trimmed, and does not hold the character that ends it; the last part of a specifier may hold any.
These conditions are exact: every specifier that is read from a text satisfies them.
-/
import EventRules.Proofs.Specifier.Place
import EventRules.Proofs.Specifier.Print

namespace EventRules

/-! ## Numbers of 32 bits -/

namespace Decimal

/-- A 32-bit integer fits as what it stands for, and nothing else does. -/
theorem int32?_eq_some_iff {n : Int} {v : Int32} : int32? n = some v ↔ n = v.toInt := by
  unfold int32?
  have low := v.le_toInt
  have high := v.toInt_lt
  split
  · rename_i fits
    rw [Option.some.injEq]
    constructor
    · rintro rfl
      exact (Int32.toInt_ofInt_of_le (by omega) (by omega)).symm
    · rintro rfl
      exact v.ofInt_toInt
  · constructor
    · intro h
      cases h
    · rintro rfl
      omega

theorem toList_text (n : Int) : (text n).toList = ofInt n := String.toList_ofList

theorem bare_ofInt (n : Int) : Text.Bare (ofInt n) := Text.bare_of_solid (solid_ofInt n)

theorem ofInt_ne_nil (n : Int) : ofInt n ≠ [] := by
  obtain ⟨c, rest, printed, -⟩ := (Specifier.padded_ofInt n).head
  rw [printed]
  exact List.cons_ne_nil _ _

end Decimal

/-! ## Parts -/

namespace Specifier

variable {α : Type} {scan : Scan α} {stops : Char → Bool} {cs rest : List Char} {c : Char}

theorem smallNumber_complete {n : Int32} (stop : Stops rest) :
    smallNumber (Decimal.ofInt n.toInt ++ rest) = .ok (n, rest) :=
  integer_complete (padded_ofInt n.toInt) (Decimal.int32?_eq_some_iff.2 rfl) stop

theorem after_cons (c : Char) : after c scan (c :: cs) = scan cs := by
  simp only [after, mark, bind, Except.bind, if_pos]

theorem after_of_absent (absent : ∀ d ∈ cs.head?, d ≠ c) : after c scan cs = .error cs := by
  cases cs with
  | nil => rfl
  | cons d rest => simp only [after, mark, bind, Except.bind, if_neg (absent d rfl)]

theorem after_sound {r : α × List Char} (h : after c scan cs = .ok r) :
    ∃ behind, cs = c :: behind ∧ scan behind = .ok r := by
  obtain ⟨⟨_, behind⟩, marked, read⟩ := exists_of_bind h
  exact ⟨behind, mark_sound marked, read⟩

theorem optional_sound {part : α} (h : optional scan cs = .ok (some part, rest)) :
    scan cs = .ok (part, rest) := by
  unfold optional at h
  split at h
  · rename_i read
    cases h
    exact read
  · cases h

/-- A part that may be missing, behind the character that announces it. -/
def announced (c : Char) : Option String → List Char
  | none => []
  | some part => c :: part.toList

theorem ended_announced {part : Option String} (solid : Text.isBlank c = false)
    (ended : ∀ text ∈ part, Text.Ended text.toList) : Text.Ended (announced c part) := by
  cases part with
  | none => exact fun c hc => by cases hc
  | some text => exact Text.ended_cons solid (ended text rfl)

theorem head?_announced {part : Option String} {d : Char} (h : d ∈ (announced c part).head?) :
    d = c := by
  cases part with
  | none => cases h
  | some text => exact (Option.some.inj h).symm

theorem stops_announced {part : Option String} (blank : isBlank c = false)
    (digit : c.isDigit = false) : Stops (announced c part) := fun d hd => by
  rw [head?_announced hd]
  exact ⟨blank, digit⟩

/-- A part that may be missing is read if it is there, and where it is missing nothing is read. -/
theorem optional_announced {part : Option α} {write : α → String}
    (read : ∀ v ∈ part, scan ((write v).toList ++ rest) = .ok (v, rest))
    (absent : ∀ d ∈ rest.head?, d ≠ c) :
    optional (after c scan) (announced c (part.map write) ++ rest) = .ok (part, rest) := by
  unfold optional
  cases part with
  | none => simp only [announced, Option.map_none, List.nil_append, after_of_absent absent]
  | some v => simp only [announced, Option.map_some, List.cons_append, after_cons, read v rfl]

/-! ## Words -/

/-- A text that can stand where blanks are trimmed and the characters `stops` end it. -/
structure Word (stops : Char → Bool) (text : String) : Prop where
  filled : text ≠ ""
  bare : Text.Bare text.toList
  plain : ∀ c ∈ text.toList, stops c = false

instance {text : String} : Decidable (Word stops text) :=
  decidable_of_iff (text ≠ "" ∧ Text.Bare text.toList ∧ text.toList.all (!stops ·) = true) (by
    simp only [List.all_eq_true, Bool.not_eq_true']
    exact ⟨fun h => ⟨h.1, h.2.1, h.2.2⟩, fun h => ⟨h.filled, h.bare, h.plain⟩⟩)

theorem Word.toList_ne_nil {text : String} (h : Word stops text) : text.toList ≠ [] := by
  rw [Ne, String.toList_eq_nil_iff]
  exact h.filled

theorem takeWhile_append_stop {before : List Char} (plain : ∀ c ∈ before, stops c = false)
    (stop : ∀ c ∈ rest.head?, stops c = true) :
    (before ++ rest).takeWhile (fun c => !stops c) = before := by
  rw [List.takeWhile_append_of_pos fun c hc => by simp [plain c hc],
    takeWhile_of_head fun c hc => by simp [stop c hc], List.append_nil]

theorem dropWhile_append_stop {before : List Char} (plain : ∀ c ∈ before, stops c = false)
    (stop : ∀ c ∈ rest.head?, stops c = true) :
    (before ++ rest).dropWhile (fun c => !stops c) = rest := by
  rw [List.dropWhile_append_of_pos fun c hc => by simp [plain c hc],
    dropWhile_of_head fun c hc => by simp [stop c hc]]

theorem upTo_complete {text : String} (h : Word stops text)
    (stop : ∀ c ∈ rest.head?, stops c = true) :
    upTo stops (text.toList ++ rest) = .ok (text, rest) := by
  unfold upTo
  rw [takeWhile_append_stop h.plain stop, dropWhile_append_stop h.plain stop,
    Text.trim_of_bare h.bare]
  simp [h.filled]

theorem word_of_takeWhile
    (filled : Text.trim (cs.takeWhile fun c => !stops c) ≠ []) :
    Word stops (String.ofList (Text.trim (cs.takeWhile fun c => !stops c))) where
  filled := by
    rw [Ne, String.ofList_eq_empty_iff]
    exact filled
  bare := by
    rw [String.toList_ofList]
    exact Text.bare_trim _
  plain c hc := by
    rw [String.toList_ofList] at hc
    simpa using List.mem_takeWhile_imp (Text.mem_of_mem_trim hc)

theorem upTo_sound {text : String} (h : upTo stops cs = .ok (text, rest)) : Word stops text := by
  unfold upTo at h
  dsimp only at h
  split at h
  · cases h
  · rename_i filled
    cases h
    exact word_of_takeWhile (by simpa using filled)

end Specifier

open Specifier

/-! ## Item descriptors -/

namespace ItemDescriptor

variable {d : ItemDescriptor}

/-- What follows the id: the damage and the tag, if they are there. -/
def endText (d : ItemDescriptor) : List Char :=
  announced '@' (d.damage.map fun n => Decimal.text n.toInt) ++ announced '/' d.tag

/-- The written form `id@damage/tag`. -/
def text (d : ItemDescriptor) : String := String.ofList (d.id.toList ++ d.endText)

structure Writable (d : ItemDescriptor) : Prop where
  id : Word (fun c => c == '@' || c == '/') d.id
  tag : ∀ tag ∈ d.tag, Text.Ended tag.toList

theorem bare_text (h : d.Writable) : Text.Bare d.text.toList := by
  have damage : ∀ text ∈ d.damage.map fun n => Decimal.text n.toInt, Text.Ended text.toList := by
    intro text there
    obtain ⟨n, -, rfl⟩ := Option.map_eq_some_iff.1 there
    rw [Decimal.toList_text]
    exact (Decimal.bare_ofInt _).last
  rw [text, String.toList_ofList]
  exact h.id.bare.append h.id.toList_ne_nil
    ((ended_announced rfl damage).append (ended_announced rfl h.tag))

theorem head?_endText : ∀ c ∈ d.endText.head?, (c == '@' || c == '/') = true := by
  intro c hc
  rw [endText, List.head?_append, Option.mem_def, Option.or_eq_some_iff] at hc
  rcases hc with hc | ⟨-, hc⟩
  · rw [head?_announced hc]
    rfl
  · rw [head?_announced hc]
    rfl

theorem damage_endText :
    optional (after '@' smallNumber) d.endText = .ok (d.damage, announced '/' d.tag) := by
  refine optional_announced (fun n _ => ?_) fun c hc => ?_
  · rw [Decimal.toList_text]
    exact smallNumber_complete (stops_announced rfl rfl)
  · rw [head?_announced hc]
    decide

theorem tag_announced (tag : Option String) :
    optional (after '/' fun cs => .ok (String.ofList cs, [])) (announced '/' tag) =
      .ok (tag, []) := by
  unfold Specifier.optional
  cases tag with
  | none => rfl
  | some text => simp only [announced, after_cons, String.ofList_toList]

theorem scan_text (h : d.Writable) : scan d.text.toList = .ok (d, []) := by
  have id : String.ofList (Text.trim d.id.toList) = d.id := by
    rw [Text.trim_of_bare h.id.bare, String.ofList_toList]
  unfold scan
  rw [text, String.toList_ofList]
  dsimp only
  rw [takeWhile_append_stop h.id.plain head?_endText, if_neg (by simp [h.id.filled]), id,
    dropWhile_append_stop h.id.plain head?_endText]
  simp only [damage_endText, tag_announced, bind, Except.bind, pure, Except.pure]

/-- A writable descriptor is read back. -/
theorem parse_text (h : d.Writable) : parse d.text = .ok d := by
  rw [parse, whole_ok_iff, Text.trim_of_bare (bare_text h)]
  exact scan_text h

/-- A text that does not begin with a blank has more than blanks before a mark, if anything. -/
theorem trim_takeWhile_ne_nil {p : Char → Bool} {cs : List Char} (bare : Text.Bare cs)
    (filled : cs.takeWhile p ≠ []) : Text.trim (cs.takeWhile p) ≠ [] := by
  obtain ⟨c, taken, begins⟩ := List.exists_cons_of_ne_nil filled
  have first : c ∈ cs.head? := by
    obtain ⟨behind, split⟩ := List.takeWhile_prefix (l := cs) p
    rw [begins] at split
    rw [← split]
    rfl
  refine Text.trim_ne_nil ?_ (bare.first c first)
  rw [begins]
  exact List.mem_cons_self

/-- What is read of a text without blanks at its ends is writable. -/
theorem writable_of_scan {cs : List Char} (bare : Text.Bare cs) (h : scan cs = .ok (d, [])) :
    d.Writable := by
  unfold scan at h
  dsimp only at h
  split at h
  · cases h
  · rename_i filled
    obtain ⟨⟨damage, behind⟩, read_damage, h⟩ := exists_of_bind h
    obtain ⟨⟨tag, rest⟩, read_tag, h⟩ := exists_of_bind h
    cases h
    refine ⟨word_of_takeWhile (trim_takeWhile_ne_nil bare (by simpa using filled)),
      fun text there => ?_⟩
    have behind_suffix : behind <:+ cs := by
      have inside := inside_optional (inside_after '@' (inside_integer Decimal.int32?))
        (cs.dropWhile fun c => !(c == '@' || c == '/'))
      rw [show optional (after '@' (integer Decimal.int32?)) _ = _ from read_damage] at inside
      exact inside.trans (List.dropWhile_suffix _)
    cases there
    obtain ⟨after_mark, rfl, all⟩ := after_sound (optional_sound read_tag)
    cases all
    rw [String.toList_ofList]
    exact bare.last.of_suffix ((List.suffix_cons _ _).trans behind_suffix)

theorem writable_of_parse {text : String} (h : parse text = .ok d) : d.Writable :=
  writable_of_scan (Text.bare_trim _) (whole_ok_iff.1 h)

end ItemDescriptor

/-! ## States -/

namespace StateSpecifier

variable {s : StateSpecifier}

/-- The written form `name=value`. -/
def text (s : StateSpecifier) : String := String.ofList (s.name.toList ++ '=' :: s.value.toList)

structure Writable (s : StateSpecifier) : Prop where
  name : Word (· == '=') s.name
  value : Word (fun _ => false) s.value

theorem bare_text (h : s.Writable) : Text.Bare s.text.toList := by
  rw [text, String.toList_ofList]
  exact h.name.bare.append h.name.toList_ne_nil (Text.ended_cons rfl h.value.bare.last)

theorem parse_text (h : s.Writable) : parse s.text = .ok s := by
  have name : upTo (· == '=') (s.name.toList ++ '=' :: s.value.toList) =
      .ok (s.name, '=' :: s.value.toList) := by
    refine upTo_complete h.name ?_
    rintro _ ⟨⟩
    rfl
  have value : upTo (fun _ => false) s.value.toList = .ok (s.value, []) := by
    have read : upTo (fun _ => false) (s.value.toList ++ []) = .ok (s.value, []) :=
      upTo_complete h.value fun c hc => by cases hc
    rwa [List.append_nil] at read
  rw [parse, whole_ok_iff, Text.trim_of_bare (bare_text h), text, String.toList_ofList]
  simp only [scan, name, mark, if_pos, value, bind, Except.bind, pure, Except.pure]

theorem writable_of_parse {text : String} (h : parse text = .ok s) : s.Writable := by
  obtain ⟨⟨name, behind⟩, read_name, h⟩ := exists_of_bind (whole_ok_iff.1 h)
  obtain ⟨⟨_, behind⟩, -, h⟩ := exists_of_bind h
  obtain ⟨⟨value, behind⟩, read_value, h⟩ := exists_of_bind h
  cases h
  exact ⟨upTo_sound read_name, upTo_sound read_value⟩

end StateSpecifier

/-! ## Counts -/

namespace CountSpecifier

variable {s : CountSpecifier}

/-- The written form `amount,mob`. -/
def text (s : CountSpecifier) : String :=
  String.ofList (Decimal.ofInt s.amount.toInt ++ announced ',' s.mob)

structure Writable (s : CountSpecifier) : Prop where
  mob : ∀ mob ∈ s.mob, Text.Bare mob.toList

theorem bare_text (h : s.Writable) : Text.Bare s.text.toList := by
  rw [text, String.toList_ofList]
  exact (Decimal.bare_ofInt _).append (Decimal.ofInt_ne_nil _)
    (ended_announced rfl fun mob there => (h.mob mob there).last)

theorem mob_announced {mob : Option String} (bare : ∀ text ∈ mob, Text.Bare text.toList) :
    optional (after ',' restTrimmed) (announced ',' mob) = .ok (mob, []) := by
  unfold Specifier.optional
  cases mob with
  | none => rfl
  | some text =>
    simp only [announced, after_cons, restTrimmed, Text.trim_of_bare (bare text rfl),
      String.ofList_toList]

theorem parse_text (h : s.Writable) : parse s.text = .ok s := by
  have amount : smallNumber (Decimal.ofInt s.amount.toInt ++ announced ',' s.mob) =
      .ok (s.amount, announced ',' s.mob) := smallNumber_complete (stops_announced rfl rfl)
  rw [parse, whole_ok_iff, Text.trim_of_bare (bare_text h), text, String.toList_ofList]
  simp only [scan, amount, mob_announced h.mob, bind, Except.bind, pure, Except.pure]

theorem writable_of_parse {text : String} (h : parse text = .ok s) : s.Writable := by
  obtain ⟨⟨amount, behind⟩, -, h⟩ := exists_of_bind (whole_ok_iff.1 h)
  obtain ⟨⟨mob, behind⟩, read_mob, h⟩ := exists_of_bind h
  cases h
  refine ⟨fun text there => ?_⟩
  cases there
  obtain ⟨after_mark, -, all⟩ := after_sound (optional_sound read_mob)
  cases all
  rw [String.toList_ofList]
  exact Text.bare_trim _

end CountSpecifier

/-! ## Potions -/

namespace PotionSpecifier

variable {s : PotionSpecifier}

/-- The written form `effect,duration,amplifier`. -/
def text (s : PotionSpecifier) : String :=
  String.ofList (s.effect.toList ++ ',' :: (Decimal.ofInt s.duration.toInt ++
    ',' :: Decimal.ofInt s.amplifier.toInt))

structure Writable (s : PotionSpecifier) : Prop where
  effect : Word (· == ',') s.effect

theorem ended_number (n : Int) : Text.Ended (',' :: Decimal.ofInt n) :=
  Text.ended_cons rfl (Decimal.bare_ofInt n).last

theorem bare_text (h : s.Writable) : Text.Bare s.text.toList := by
  rw [text, String.toList_ofList]
  exact h.effect.bare.append h.effect.toList_ne_nil
    ((ended_number _).append (ended_number _))

theorem parse_text (h : s.Writable) : parse s.text = .ok s := by
  have effect : upTo (· == ',') (s.effect.toList ++ ',' :: (Decimal.ofInt s.duration.toInt ++
      ',' :: Decimal.ofInt s.amplifier.toInt)) =
      .ok (s.effect, ',' :: (Decimal.ofInt s.duration.toInt ++
        ',' :: Decimal.ofInt s.amplifier.toInt)) := by
    refine upTo_complete h.effect ?_
    rintro _ ⟨⟩
    rfl
  have duration : smallNumber (Decimal.ofInt s.duration.toInt ++
      ',' :: Decimal.ofInt s.amplifier.toInt) =
      .ok (s.duration, ',' :: Decimal.ofInt s.amplifier.toInt) :=
    smallNumber_complete (stops_cons rfl rfl)
  have amplifier : smallNumber (Decimal.ofInt s.amplifier.toInt) = .ok (s.amplifier, []) := by
    have read := smallNumber_complete (n := s.amplifier) stops_nil
    rwa [List.append_nil] at read
  rw [parse, whole_ok_iff, Text.trim_of_bare (bare_text h), text, String.toList_ofList]
  simp only [scan, effect, after_cons, duration, amplifier, bind, Except.bind, pure, Except.pure]

theorem writable_of_parse {text : String} (h : parse text = .ok s) : s.Writable := by
  obtain ⟨⟨effect, behind⟩, read_effect, h⟩ := exists_of_bind (whole_ok_iff.1 h)
  obtain ⟨⟨duration, behind⟩, -, h⟩ := exists_of_bind h
  obtain ⟨⟨amplifier, behind⟩, -, h⟩ := exists_of_bind h
  cases h
  exact ⟨upTo_sound read_effect⟩

end PotionSpecifier

/-! ## Writing and reading -/

namespace Specifier

/-- A reader undoes a writer on exactly what it can read: what is writable is read back, and what is
read of any text is writable. -/
structure Undoes {α : Type} (read : String → Except SpecifierError α) (write : α → String)
    (Writable : α → Prop) : Prop where
  complete : ∀ a, Writable a → read (write a) = .ok a
  sound : ∀ text a, read text = .ok a → Writable a

/-- Each of the compact forms is decoded as it was encoded. -/
theorem reading_undoes_writing :
    Undoes ItemDescriptor.parse ItemDescriptor.text ItemDescriptor.Writable ∧
    Undoes StateSpecifier.parse StateSpecifier.text StateSpecifier.Writable ∧
    Undoes CountSpecifier.parse CountSpecifier.text CountSpecifier.Writable ∧
    Undoes PotionSpecifier.parse PotionSpecifier.text PotionSpecifier.Writable :=
  ⟨⟨fun _ => ItemDescriptor.parse_text, fun _ _ => ItemDescriptor.writable_of_parse⟩,
    ⟨fun _ => StateSpecifier.parse_text, fun _ _ => StateSpecifier.writable_of_parse⟩,
    ⟨fun _ => CountSpecifier.parse_text, fun _ _ => CountSpecifier.writable_of_parse⟩,
    ⟨fun _ => PotionSpecifier.parse_text, fun _ _ => PotionSpecifier.writable_of_parse⟩⟩

/-- A mark may come again in the last part, and a tag may begin with blanks. -/
theorem reading_undoes_writing_marks :
    ItemDescriptor.parse "a:bow@-3/ [1@2/3]" = .ok ⟨"a:bow", some (-3), some " [1@2/3]"⟩ ∧
    StateSpecifier.parse "phase=a = b" = .ok ⟨"phase", "a = b"⟩ ∧
    CountSpecifier.parse "-2147483648,a,b" = .ok ⟨-2147483648, some "a,b"⟩ ∧
    PotionSpecifier.parse "speed,200,-1" = .ok ⟨"speed", 200, -1⟩ := by
  have item := reading_undoes_writing.1.complete ⟨"a:bow", some (-3), some " [1@2/3]"⟩
    ⟨by decide, by decide⟩
  have state := reading_undoes_writing.2.1.complete ⟨"phase", "a = b"⟩ ⟨by decide, by decide⟩
  have count := reading_undoes_writing.2.2.1.complete ⟨-2147483648, some "a,b"⟩ ⟨by decide⟩
  have potion := reading_undoes_writing.2.2.2.complete ⟨"speed", 200, -1⟩ ⟨by decide⟩
  have item_text :
      (⟨"a:bow", some (-3), some " [1@2/3]"⟩ : ItemDescriptor).text = "a:bow@-3/ [1@2/3]" := by
    decide +kernel
  have state_text : (⟨"phase", "a = b"⟩ : StateSpecifier).text = "phase=a = b" := by
    decide +kernel
  have count_text :
      (⟨-2147483648, some "a,b"⟩ : CountSpecifier).text = "-2147483648,a,b" := by decide +kernel
  have potion_text : (⟨"speed", 200, -1⟩ : PotionSpecifier).text = "speed,200,-1" := by
    decide +kernel
  rw [item_text] at item
  rw [state_text] at state
  rw [count_text] at count
  rw [potion_text] at potion
  exact ⟨item, state, count, potion⟩

end Specifier

end EventRules
