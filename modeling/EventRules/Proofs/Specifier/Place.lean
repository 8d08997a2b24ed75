/-
Where a specifier is refused. A scanner never leaves its text: what follows what it read, and what
follows the place where it fails, is an end of the text it began with. So the place told by an error
divides the trimmed text between two of its characters, however many bytes each of them takes.
-/
import EventRules.Specifier.Compact
import EventRules.Specifier.Range
import EventRules.Proofs.Text.Trim

namespace EventRules

/-! ## Bytes -/

namespace Text

theorem byteSize_append (before after : List Char) :
    byteSize (before ++ after) = byteSize before + byteSize after := by
  induction before with
  | nil => exact (Nat.zero_add _).symm
  | cons c rest ih =>
    show c.utf8Size + byteSize (rest ++ after) = c.utf8Size + byteSize rest + byteSize after
    rw [ih, Nat.add_assoc]

/-- The bytes of a text are those of the string of its characters. -/
theorem utf8ByteSize_ofList (cs : List Char) : (String.ofList cs).utf8ByteSize = byteSize cs := by
  induction cs with
  | nil => rfl
  | cons c rest ih =>
    rw [← List.singleton_append, String.ofList_append, String.utf8ByteSize_append,
      ← String.singleton_eq_ofList, String.utf8ByteSize_singleton, ih]
    rfl

end Text

namespace Specifier

variable {α β : Type} {scan : Scan α} {cs rest : List Char}

/-! ## Scanners stay in their text -/

/-- What a scanner leaves: the characters behind what it read, or those where it failed. -/
def left : Except (List Char) (α × List Char) → List Char
  | .ok (_, rest) => rest
  | .error rest => rest

/-- What the scanner leaves of a text is an end of it. -/
def Inside (scan : Scan α) : Prop := ∀ cs, left (scan cs) <:+ cs

/-- A scanner followed by one that goes on from where it came to. -/
theorem left_bind {read : Except (List Char) (α × List Char)}
    {next : α × List Char → Except (List Char) (β × List Char)} (first : left read <:+ cs)
    (then_inside : ∀ v rest, left (next (v, rest)) <:+ rest) : left (read >>= next) <:+ cs := by
  cases read with
  | error place => exact first
  | ok r => exact (then_inside r.1 r.2).trans first

theorem inside_mark (c : Char) : Inside (mark c) := by
  intro cs
  unfold mark
  split
  · split
    · exact List.suffix_cons _ _
    · exact List.suffix_rfl
  · exact List.suffix_rfl

theorem inside_word (expected : List Char) : Inside (word expected) := by
  intro cs
  unfold word
  split
  · exact List.drop_suffix _ _
  · exact List.suffix_rfl

theorem suffix_skipBlanks (cs : List Char) : skipBlanks cs <:+ cs := List.dropWhile_suffix _

theorem suffix_sign (cs : List Char) : (Decimal.sign cs).2 <:+ cs := by
  unfold Decimal.sign
  split
  · exact List.suffix_cons _ _
  · exact List.suffix_cons _ _
  · exact List.suffix_rfl

theorem suffix_numeral {n : Int} (h : numeral cs = some (n, rest)) : rest <:+ cs := by
  unfold numeral at h
  dsimp only at h
  split at h
  · cases h
  · split at h
    · cases h
      exact (List.dropWhile_suffix _).trans (suffix_sign cs)
    · split at h
      · cases h
        exact List.suffix_cons _ _
      · cases h

theorem inside_integer (fits : Int → Option α) : Inside (integer fits) := by
  intro cs
  have start := suffix_skipBlanks cs
  unfold integer
  dsimp only
  split
  · exact start
  · rename_i n rest read
    split
    · exact start
    · exact (suffix_skipBlanks rest).trans ((suffix_numeral read).trans start)

theorem inside_firstOf : ∀ {scans : List (Scan α)}, (∀ scan ∈ scans, Inside scan) →
    Inside (firstOf scans)
  | [], _, cs => List.suffix_rfl
  | scan :: scans, h, cs => by
    obtain ⟨first, others⟩ := List.forall_mem_cons.1 h
    have here := first cs
    rw [firstOf]
    split
    · rename_i r read
      rwa [read] at here
    · exact inside_firstOf others cs

theorem inside_optional (h : Inside scan) : Inside (optional scan) := by
  intro cs
  have here := h cs
  unfold optional
  split
  · rename_i v rest read
    rwa [read] at here
  · exact List.suffix_rfl

theorem inside_upTo (stops : Char → Bool) : Inside (upTo stops) := by
  intro cs
  unfold upTo
  dsimp only
  split
  · exact List.suffix_rfl
  · exact List.dropWhile_suffix _

theorem inside_after (c : Char) (h : Inside scan) : Inside (after c scan) := fun cs =>
  left_bind (inside_mark c cs) fun _ rest => h rest

/-- A scanner that uses up its text leaves its end. -/
theorem inside_all (read : List Char → α) : Inside fun cs => .ok (read cs, []) := fun _ =>
  List.nil_suffix

end Specifier

open Specifier

/-! ## The forms -/

theorem RangeExpr.inside_operator (symbol : List Char) (make : Int64 → RangeExpr) :
    Inside (operator symbol make) := fun cs =>
  left_bind (inside_word symbol cs) fun _ rest =>
    left_bind (inside_integer _ rest) fun _ _ => List.suffix_rfl

theorem RangeExpr.inside_dashed : Inside dashed := fun cs =>
  left_bind (inside_integer _ cs) fun _ rest => left_bind (inside_mark '-' rest) fun _ rest =>
    left_bind (inside_integer _ rest) fun _ _ => List.suffix_rfl

theorem RangeExpr.inside_alternatives : Inside (firstOf alternatives) := by
  refine inside_firstOf ?_
  simp only [alternatives, List.forall_mem_cons, inside_operator, inside_dashed, true_and]
  exact List.forall_mem_nil _

theorem ItemDescriptor.inside_scan : Inside scan := by
  intro cs
  unfold scan
  dsimp only
  split
  · exact List.suffix_rfl
  · exact left_bind
      ((inside_optional (inside_after '@' (inside_integer _)) _).trans (List.dropWhile_suffix _))
      fun _ rest => left_bind (inside_optional (inside_after '/' (inside_all _)) rest)
        fun _ _ => List.suffix_rfl

theorem StateSpecifier.inside_scan : Inside scan := fun cs =>
  left_bind (inside_upTo _ cs) fun _ rest => left_bind (inside_mark '=' rest) fun _ rest =>
    left_bind (inside_upTo _ rest) fun _ _ => List.suffix_rfl

theorem CountSpecifier.inside_scan : Inside scan := fun cs =>
  left_bind (inside_integer _ cs) fun _ rest =>
    left_bind (inside_optional (inside_after ',' (inside_all _)) rest) fun _ _ => List.suffix_rfl

theorem PotionSpecifier.inside_scan : Inside scan := fun cs =>
  left_bind (inside_upTo _ cs) fun _ rest =>
    left_bind (inside_after ',' (inside_integer _) rest) fun _ rest =>
      left_bind (inside_after ',' (inside_integer _) rest) fun _ _ => List.suffix_rfl

/-! ## Errors -/

namespace SpecifierError

variable {α : Type} {scan : Scan α} {form : SpecifierForm} {text : String} {e : SpecifierError}

/-- The error is about the form, quotes the text without the blanks at its ends, and tells a place
between two characters of what it quotes, or at one of its ends. -/
structure PointsInto (form : SpecifierForm) (text : String) (e : SpecifierError) : Prop where
  form : e.form = form
  input : Text.Trimmed text.toList e.input.toList
  offset_le : e.offset ≤ e.input.utf8ByteSize
  boundary : String.Pos.Raw.IsValid e.input ⟨e.offset⟩

/-- The place where an end of the text begins. -/
theorem pointsInto_of_split {before after : List Char}
    (split : Text.trim text.toList = before ++ after) :
    PointsInto form text ⟨form, String.ofList (Text.trim text.toList),
      Text.byteSize (Text.trim text.toList) - Text.byteSize after⟩ := by
  have input :
      String.ofList (Text.trim text.toList) = String.ofList before ++ String.ofList after := by
    rw [split, String.ofList_append]
  have offset : Text.byteSize (Text.trim text.toList) - Text.byteSize after =
      (String.ofList before).utf8ByteSize := by
    rw [split, Text.byteSize_append, Nat.add_sub_cancel, Text.utf8ByteSize_ofList]
  rw [offset]
  refine ⟨rfl, ?_, ?_, ?_⟩
  · rw [String.toList_ofList]
    exact Text.trimmed_trim _
  · rw [input, String.utf8ByteSize_append]
    exact Nat.le_add_right _ _
  · exact String.Pos.Raw.isValid_iff_exists_append.2 ⟨_, _, input, rfl⟩

theorem pointsInto_of_whole (inside : Inside scan) (h : whole form scan text = .error e) :
    PointsInto form text e := by
  obtain ⟨before, split⟩ := inside (Text.trim text.toList)
  unfold whole at h
  dsimp only at h
  -- what the scanner left is where the error was made, with or without a failure
  split at h
  · cases h
  · rename_i v rest _ read
    cases h
    rw [read] at split
    exact pointsInto_of_split split.symm
  · rename_i rest read
    cases h
    rw [read] at split
    exact pointsInto_of_split split.symm

/-- A text that is refused as a specifier of some form, with the error told. -/
inductive Refused (text : String) : SpecifierForm → SpecifierError → Prop
  | range {e : SpecifierError} (h : RangeExpr.parse text = .error e) : Refused text .range e
  | item {e : SpecifierError} (h : ItemDescriptor.parse text = .error e) : Refused text .item e
  | state {e : SpecifierError} (h : StateSpecifier.parse text = .error e) : Refused text .state e
  | count {e : SpecifierError} (h : CountSpecifier.parse text = .error e) : Refused text .count e
  | potion {e : SpecifierError} (h : PotionSpecifier.parse text = .error e) : Refused text .potion e

/-- Whatever the form, an error quotes the trimmed text and points into what it quotes. -/
theorem pointsInto_of_refused (refused : Refused text form e) : PointsInto form text e := by
  cases refused with
  | range h => exact pointsInto_of_whole RangeExpr.inside_alternatives h
  | item h => exact pointsInto_of_whole ItemDescriptor.inside_scan h
  | state h => exact pointsInto_of_whole StateSpecifier.inside_scan h
  | count h => exact pointsInto_of_whole CountSpecifier.inside_scan h
  | potion h => exact pointsInto_of_whole PotionSpecifier.inside_scan h

/-- The amplifier is no number; three of the characters before it take two or three bytes. -/
theorem pointsInto_of_refused_potion :
    PotionSpecifier.parse "\u3000Stärke–é,\t20, x " =
      .error ⟨.potion, "Stärke–é,\t20, x", 18⟩ ∧
    PointsInto .potion "\u3000Stärke–é,\t20, x " ⟨.potion, "Stärke–é,\t20, x", 18⟩ := by
  have refused : PotionSpecifier.parse "\u3000Stärke–é,\t20, x " =
      .error ⟨.potion, "Stärke–é,\t20, x", 18⟩ := by decide +kernel
  exact ⟨refused, pointsInto_of_refused (.potion refused)⟩

end SpecifierError

end EventRules
