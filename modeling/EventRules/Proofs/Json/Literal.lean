/-
Number literals inside a text. A literal ends where its characters end: in a printed text a comma, a
bracket or a brace follows it, or nothing, and none of these goes on with it. So a number that is
read back from its own text is read back wherever it is printed.
-/
import EventRules.Json.Printer
import EventRules.Json.Reader
import EventRules.Proofs.Specifier.Print

namespace EventRules

namespace Json

/-! ## Ends of literals -/

/-- What stands behind a printed value: nothing, a comma, or a closing bracket or brace. -/
def Delimited (rest : List Char) : Prop := ∀ c ∈ rest.head?, c ∈ [',', ']', '\x7d']

theorem delimited_nil : Delimited [] := fun _ h => by cases h

theorem delimited_cons {c : Char} (h : c ∈ [',', ']', '\x7d']) (rest : List Char) :
    Delimited (c :: rest) := by
  rintro _ ⟨⟩
  exact h

/-- What is read stands before what is left, and is read as well if there is more behind it. -/
def Local {α : Type} (read : Read α) : Prop := ∀ cs a behind, read cs = some (a, behind) →
  behind <:+ cs ∧ ∀ rest, Delimited rest → read (cs ++ rest) = some (a, behind ++ rest)

theorem local_pure {α : Type} (a : α) : Local fun cs => some (a, cs) := by
  intro cs a behind h
  cases h
  exact ⟨List.suffix_rfl, fun _ _ => rfl⟩

/-- One reading after the other. -/
theorem local_bind {α β : Type} {first : Read α} {next : α → Read β} (hf : Local first)
    (hn : ∀ a, Local (next a)) : Local fun cs => (first cs).bind fun r => next r.1 r.2 := by
  intro cs b behind h
  obtain ⟨⟨a, middle⟩, read, h⟩ := Option.bind_eq_some_iff.1 h
  obtain ⟨first_suffix, first_more⟩ := hf cs a middle read
  obtain ⟨next_suffix, next_more⟩ := hn a middle b behind h
  refine ⟨next_suffix.trans first_suffix, fun rest delimited => ?_⟩
  dsimp only
  rw [first_more rest delimited]
  exact next_more rest delimited

variable {cs rest : List Char}

/-! ## Parts of literals -/

theorem Delimited.not_digit (h : Delimited rest) : ∀ c ∈ rest.head?, c.isDigit = false := by
  have marks : ∀ c ∈ [',', ']', '\x7d'], c.isDigit = false := by simp
  exact fun c hc => marks c (h c hc)

theorem span_append (h : ∀ c ∈ rest.head?, c.isDigit = false) :
    Decimal.span (cs ++ rest) = ((Decimal.span cs).1, (Decimal.span cs).2 ++ rest) := by
  unfold Decimal.span
  induction cs with
  | nil =>
    cases rest with
    | nil => rfl
    | cons c rest => simp [h c rfl]
  | cons c cs ih =>
    rw [List.cons_append, List.takeWhile_cons, List.dropWhile_cons, List.takeWhile_cons,
      List.dropWhile_cons]
    split
    · rw [Prod.mk.injEq] at ih
      rw [ih.1, ih.2]
    · rfl

theorem local_wholeDigits : Local wholeDigits := by
  intro cs digits behind h
  unfold wholeDigits at h
  split at h
  · cases h
    exact ⟨List.suffix_cons _ _, fun rest _ => rfl⟩
  · rename_i c tail nonzero
    split at h
    · rename_i digit
      rw [Option.some.injEq] at h
      refine ⟨by cases h; exact List.dropWhile_suffix _, fun rest delimited => ?_⟩
      have whole : wholeDigits (c :: tail ++ rest) = some (Decimal.span (c :: tail ++ rest)) := by
        rw [List.cons_append, wholeDigits, if_pos digit]
        exact nonzero
      rw [whole, span_append delimited.not_digit, h]
    · cases h
  · cases h

theorem local_someDigits : Local someDigits := by
  intro cs digits behind h
  unfold someDigits at h ⊢
  dsimp only at h ⊢
  split at h
  · cases h
  · rename_i some
    cases h
    refine ⟨List.dropWhile_suffix _, fun rest delimited => ?_⟩
    rw [span_append delimited.not_digit, if_neg some]

theorem local_fractionPart : Local fractionPart := by
  intro cs fraction behind h
  unfold fractionPart at h
  split at h
  · obtain ⟨⟨digits, after⟩, read, made⟩ := Option.map_eq_some_iff.1 h
    cases made
    obtain ⟨suffix, more⟩ := local_someDigits _ _ _ read
    refine ⟨suffix.trans (List.suffix_cons _ _), fun rest delimited => ?_⟩
    rw [List.cons_append, fractionPart, more rest delimited]
    rfl
  · rename_i no_point
    cases h
    refine ⟨List.suffix_rfl, fun rest delimited => ?_⟩
    unfold fractionPart
    split
    · rename_i tail begins
      cases cs with
      | nil =>
        rw [List.nil_append] at begins
        have point := delimited '.' (by rw [begins]; rfl)
        exact absurd point (by decide)
      | cons c cs =>
        rw [List.cons_append, List.cons.injEq] at begins
        exact absurd (begins.1 ▸ rfl) (no_point cs)
    · rfl

theorem sign_append (filled : cs ≠ []) (rest : List Char) :
    Decimal.sign (cs ++ rest) = ((Decimal.sign cs).1, (Decimal.sign cs).2 ++ rest) := by
  obtain ⟨c, cs, rfl⟩ := List.exists_cons_of_ne_nil filled
  unfold Decimal.sign
  rw [List.cons_append]
  split <;> simp_all

theorem sign_suffix (cs : List Char) : (Decimal.sign cs).2 <:+ cs := by
  unfold Decimal.sign
  split
  · exact List.suffix_cons _ _
  · exact List.suffix_cons _ _
  · exact List.suffix_rfl

/-- The digits of an exponent. -/
theorem local_exponentDigits (negative : Bool) : Local fun cs => (someDigits cs).bind fun r =>
    some (some (if negative then -(Decimal.value r.1 : Int) else Decimal.value r.1), r.2) :=
  local_bind local_someDigits fun digits =>
    local_pure (some (if negative then -(Decimal.value digits : Int) else Decimal.value digits))

theorem exponentPart_cons {c : Char} (mark : c = 'e' ∨ c = 'E') (tail : List Char) :
    exponentPart (c :: tail) = (someDigits (Decimal.sign tail).2).bind fun r =>
      some (some (if (Decimal.sign tail).1 then -(Decimal.value r.1 : Int)
        else Decimal.value r.1), r.2) := by
  rw [exponentPart, if_pos mark]
  rfl

theorem local_exponentPart : Local exponentPart := by
  intro cs exponent behind h
  cases cs with
  | nil =>
    cases h
    refine ⟨List.suffix_rfl, fun rest delimited => ?_⟩
    cases rest with
    | nil => rfl
    | cons c rest =>
      have plain : ∀ c ∈ [',', ']', '\x7d'], ¬ (c = 'e' ∨ c = 'E') := by simp
      show exponentPart (c :: rest) = some (none, c :: rest)
      rw [exponentPart, if_neg (plain c (delimited c rfl))]
  | cons c tail =>
    by_cases mark : c = 'e' ∨ c = 'E'
    · rw [exponentPart_cons mark] at h
      obtain ⟨suffix, more⟩ := local_exponentDigits _ _ _ _ h
      have filled : tail ≠ [] := by
        rintro rfl
        cases h
      refine ⟨(suffix.trans (sign_suffix tail)).trans (List.suffix_cons _ _),
        fun rest delimited => ?_⟩
      rw [List.cons_append, exponentPart_cons mark, sign_append filled]
      exact more rest delimited
    · rw [exponentPart, if_neg mark] at h
      cases h
      refine ⟨List.suffix_rfl, fun rest _ => ?_⟩
      rw [List.cons_append, exponentPart, if_neg mark]

/-- A literal without its sign. -/
def unsigned (negative : Bool) : Read Literal := fun cs =>
  (wholeDigits cs).bind fun w => (fractionPart w.2).bind fun f => (exponentPart f.2).bind fun e =>
    some (⟨negative, w.1, f.1, e.1⟩, e.2)

theorem local_unsigned (negative : Bool) : Local (unsigned negative) :=
  local_bind local_wholeDigits fun _ => local_bind local_fractionPart fun _ =>
    local_bind local_exponentPart fun _ => local_pure _

theorem literal_of_plain {c : Char} (plain : c ≠ '-') (cs : List Char) :
    literal (c :: cs) = unsigned false (c :: cs) := by
  unfold literal
  split
  · rename_i begins
    split at begins
    · rename_i same
      exact absurd (List.cons.inj same).1 plain
    · cases begins
      rfl

/-- A literal is read as itself wherever it stands in a printed text. -/
theorem local_literal : Local literal := by
  intro cs l behind h
  cases cs with
  | nil => cases h
  | cons c tail =>
    by_cases minus : c = '-'
    · subst minus
      obtain ⟨suffix, more⟩ := local_unsigned _ _ _ _ h
      exact ⟨suffix.trans (List.suffix_cons _ _), more⟩
    · rw [literal_of_plain minus] at h
      obtain ⟨suffix, more⟩ := local_unsigned _ _ _ _ h
      refine ⟨suffix, fun rest delimited => ?_⟩
      rw [List.cons_append, literal_of_plain minus]
      exact more rest delimited

/-- A literal begins with a sign or a digit. -/
theorem head_of_literal {c : Char} {r : Literal × List Char} (h : literal (c :: cs) = some r) :
    c = '-' ∨ c.isDigit = true := by
  by_cases minus : c = '-'
  · exact .inl minus
  · rw [literal_of_plain minus] at h
    obtain ⟨w, whole, -⟩ := Option.bind_eq_some_iff.1 h
    refine .inr ?_
    unfold wholeDigits at whole
    split at whole
    · rename_i begins
      rw [(List.cons.inj begins).1]
      rfl
    · rename_i d _ _ begins
      split at whole
      · rename_i digit
        rwa [(List.cons.inj begins).1]
      · cases whole
    · rename_i begins
      cases begins

end Json

/-! ## Printed numbers -/

namespace Number

/-- The characters of printed numbers that are no digits. -/
def marks : List Char := ['-', '+', '.', 'e', 'n', 'u', 'l']

/-- A character of printed numbers. -/
def Plain (c : Char) : Prop := c.isDigit = true ∨ c ∈ marks

theorem plain_ofNat (n : Nat) : ∀ c ∈ Decimal.ofNat n, Plain c :=
  fun _ hc => .inl (Decimal.isDigit_of_mem_ofNat hc)

theorem plain_mark {c : Char} (h : c ∈ marks) : Plain c := .inr h

theorem plain_zeros (n : Nat) : ∀ c ∈ List.replicate n '0', Plain c := by
  intro c hc
  rw [List.eq_of_mem_replicate hc]
  exact .inl rfl

theorem plain_layout {digits : List Char} (h : ∀ c ∈ digits, Plain c) (k : Int) :
    ∀ c ∈ layout digits k, Plain c := by
  have point : Plain '.' := plain_mark (by decide)
  have zero : Plain '0' := .inl rfl
  unfold layout
  dsimp only
  split
  · split
    · simp only [List.forall_mem_append, List.forall_mem_cons]
      exact ⟨⟨h, plain_zeros _⟩, point, zero, List.forall_mem_nil _⟩
    · split
      · rw [List.forall_mem_append, List.forall_mem_cons]
        exact ⟨fun c hc => h c (List.mem_of_mem_take hc), point,
          fun c hc => h c (List.mem_of_mem_drop hc)⟩
      · simp only [List.forall_mem_append, List.forall_mem_cons]
        exact ⟨⟨⟨zero, point, List.forall_mem_nil _⟩, plain_zeros _⟩, h⟩
  · rw [List.forall_mem_append, List.forall_mem_cons, List.forall_mem_cons]
    refine ⟨?_, plain_mark (by decide), ?_, plain_ofNat _⟩
    · split
      · simp only [List.forall_mem_cons] at h ⊢
        exact ⟨h.1, point, h.2⟩
      · exact h
    · split <;> exact plain_mark (by decide)

theorem plain_chars (n : Number) : ∀ c ∈ n.chars, Plain c := by
  have null : ∀ c ∈ ['n', 'u', 'l', 'l'], Plain c := fun c hc =>
    plain_mark (List.subset_def.1 (by simp [marks] : ['n', 'u', 'l', 'l'] ⊆ marks) hc)
  have minus : Plain '-' := plain_mark (by decide)
  cases n with
  | integer n =>
    show ∀ c ∈ Decimal.ofInt n, Plain c
    unfold Decimal.ofInt
    split
    · exact List.forall_mem_cons.2 ⟨minus, plain_ofNat _⟩
    · exact plain_ofNat _
  | float x =>
    cases x with
    | nan => exact null
    | infinite negative => exact null
    | finite negative m e =>
      have body : ∀ c ∈ (if m = 0 then ['0', '.', '0']
          else layout (Decimal.ofNat (Decimal.shortest .double m e).1)
            (Decimal.shortest .double m e).2), Plain c := by
        split
        · simp only [List.forall_mem_cons]
          exact ⟨.inl rfl, plain_mark (by decide), .inl rfl, List.forall_mem_nil _⟩
        · exact plain_layout (plain_ofNat _) _
      show ∀ c ∈ doubleChars (.finite negative m e), Plain c
      unfold doubleChars
      dsimp only
      split
      · exact List.forall_mem_cons.2 ⟨minus, body⟩
      · exact body

theorem Plain.not_blank {c : Char} (h : Plain c) : Json.isBlank c = false := by
  rcases h with digit | mark
  · by_contra blank
    simp only [Json.isBlank, Bool.or_eq_true, beq_iff_eq, Bool.not_eq_false] at blank
    rcases blank with ((rfl | rfl) | rfl) | rfl <;> cases digit
  · exact (by simp [marks, Json.isBlank] : ∀ c ∈ marks, Json.isBlank c = false) c mark

/-- A number that is read back from its own text. -/
def Readable (n : Number) : Prop := Json.parse (Json.number n).print = some (.number n)

theorem literal_of_scalar {n : Number} {cs rest : List Char}
    (h : Json.scalar cs = some (.number n, rest)) :
    ∃ l, Json.literal cs = some (l, rest) ∧ ofLiteral l = some n := by
  unfold Json.scalar at h
  split at h
  · cases h
  · cases h
  · cases h
  · obtain ⟨_, -, made⟩ := Option.map_eq_some_iff.1 h
    cases made
  · obtain ⟨⟨l, behind⟩, read, h⟩ := Option.bind_eq_some_iff.1 h
    obtain ⟨m, number, made⟩ := Option.bind_eq_some_iff.1 h
    cases made
    exact ⟨l, read, number⟩

/-- Such a number is printed as one literal that stands for it. -/
theorem Readable.literal {n : Number} (h : n.Readable) :
    ∃ l, Json.literal n.chars = some (l, []) ∧ ofLiteral l = some n := by
  have solid : Json.skipBlanks n.chars = n.chars :=
    Specifier.dropWhile_of_head fun c hc =>
      (plain_chars n c (List.mem_of_mem_head? hc)).not_blank
  unfold Readable Json.parse Json.print at h
  rw [String.toList_ofList] at h
  split at h
  · rename_i v rest read
    split at h
    · rename_i blank
      cases h
      have scalar : Json.scalar n.chars = some (.number n, rest) := by
        change Json.value (126 + 1) n.chars = _ at read
        unfold Json.value at read
        rw [solid] at read
        split at read
        · obtain ⟨_, -, made⟩ := Option.map_eq_some_iff.1 read
          cases made
        · obtain ⟨_, -, made⟩ := Option.map_eq_some_iff.1 read
          cases made
        · exact read
      obtain ⟨l, literal, number⟩ := literal_of_scalar scalar
      -- what is left of the text is blank, and there is nothing blank in it
      have nothing : rest = [] := by
        have suffix := (Json.local_literal _ _ _ literal).1
        rw [Json.skipBlanks, Specifier.dropWhile_of_head fun c hc => (plain_chars n c
          (suffix.subset (List.mem_of_mem_head? hc))).not_blank] at blank
        exact List.isEmpty_iff.1 blank
      rw [nothing] at literal
      exact ⟨l, literal, number⟩
    · cases h
  · cases h

/-- Such a number is read as its literal wherever it is printed. -/
theorem Readable.reads_literal {n : Number} (h : n.Readable) : ∃ l, ofLiteral l = some n ∧
    ∀ rest, Json.Delimited rest → Json.literal (n.chars ++ rest) = some (l, rest) := by
  obtain ⟨l, read, number⟩ := h.literal
  exact ⟨l, number, (Json.local_literal _ _ _ read).2⟩

/-- Such a number begins with a sign or a digit. -/
theorem Readable.exists_cons {n : Number} (h : n.Readable) :
    ∃ c cs, n.chars = c :: cs ∧ (c = '-' ∨ c.isDigit = true) := by
  obtain ⟨l, read, -⟩ := h.literal
  cases begins : n.chars with
  | nil =>
    rw [begins] at read
    cases read
  | cons c cs =>
    rw [begins] at read
    exact ⟨c, cs, rfl, Json.head_of_literal read⟩

end Number

end EventRules
