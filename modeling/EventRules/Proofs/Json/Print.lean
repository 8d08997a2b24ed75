/-
What is printed is read back. In a printed text no blank stands before or behind a value, and what
follows a value ends it; so a reader that knows the values reads the printed items one by one, up to
the closing mark. The numbers of a value are taken to be read back from their own texts.
-/
import EventRules.Json.Skip
import EventRules.Proofs.Dict
import EventRules.Proofs.Json.Literal
import EventRules.Proofs.Json.Number

namespace EventRules.Json

/-! ## Strings -/

section Strings

variable {char : Read Char} {as : Char → Char}

/-- A printed character is read as one character. -/
def Unescapes (char : Read Char) (as : Char → Char) : Prop :=
  ∀ c rest, char (escapedChar c ++ rest) = some (as c, rest)

/-- A printed character stands for itself, or behind a backslash by a letter, or by its number. -/
theorem escapedChar_cases (c : Char) :
    (escapedChar c = [c] ∧ c ≠ '"' ∧ c ≠ '\\' ∧ 32 ≤ c.toNat) ∨
    (∃ e, escapedChar c = ['\\', e] ∧ shortEscape? e = some c) ∨
    (c.toNat < 32 ∧ escapedChar c =
      ['\\', 'u', '0', '0', Nat.digitChar (c.toNat / 16), Nat.digitChar (c.toNat % 16)]) := by
  unfold escapedChar
  split
  · rename_i quote
    subst quote
    exact .inr (.inl ⟨_, rfl, rfl⟩)
  split
  · rename_i backslash
    subst backslash
    exact .inr (.inl ⟨_, rfl, rfl⟩)
  split
  · rename_i quote backslash plain
    exact .inl ⟨rfl, quote, backslash, plain⟩
  split
  · rename_i code
    rw [Char.toNat_inj.1 (code.trans (rfl : _ = ('\x08' : Char).toNat))]
    exact .inr (.inl ⟨_, rfl, rfl⟩)
  split
  · rename_i code
    rw [Char.toNat_inj.1 (code.trans (rfl : _ = ('\t' : Char).toNat))]
    exact .inr (.inl ⟨_, rfl, rfl⟩)
  split
  · rename_i code
    rw [Char.toNat_inj.1 (code.trans (rfl : _ = ('\n' : Char).toNat))]
    exact .inr (.inl ⟨_, rfl, rfl⟩)
  split
  · rename_i code
    rw [Char.toNat_inj.1 (code.trans (rfl : _ = ('\x0c' : Char).toNat))]
    exact .inr (.inl ⟨_, rfl, rfl⟩)
  split
  · rename_i code
    rw [Char.toNat_inj.1 (code.trans (rfl : _ = ('\r' : Char).toNat))]
    exact .inr (.inl ⟨_, rfl, rfl⟩)
  · rename_i control _ _ _ _ _
    exact .inr (.inr ⟨by omega, rfl⟩)

theorem hexUnit_control {n : Nat} (h : n < 32) (rest : List Char) :
    hexUnit ('0' :: '0' :: Nat.digitChar (n / 16) :: Nat.digitChar (n % 16) :: rest) =
      some (n, rest) := by
  have digit : ∀ k, k < 16 → hexDigit? (Nat.digitChar k) = some k := by decide
  have zero : hexDigit? '0' = some 0 := rfl
  simp only [hexUnit, zero, digit (n / 16) (by omega), digit (n % 16) (by omega), bind,
    Option.bind, pure, Option.some.injEq, Prod.mk.injEq, and_true]
  omega

theorem stringChar_plain {c : Char} (backslash : c ≠ '\\') (printable : 32 ≤ c.toNat)
    (rest : List Char) : stringChar (c :: rest) = some (c, rest) := by
  unfold stringChar
  split
  · rename_i begins
    exact absurd (List.cons.inj begins).1 backslash
  · rename_i begins
    exact absurd (List.cons.inj begins).1 backslash
  · rename_i begins
    exact absurd (List.cons.inj begins).1 backslash
  · rename_i begins
    cases begins
    exact if_neg (by omega)
  · rename_i begins
    cases begins

theorem stringChar_short {e c : Char} (h : shortEscape? e = some c) (rest : List Char) :
    stringChar ('\\' :: e :: rest) = some (c, rest) := by
  have other : e ≠ 'u' := by
    rintro rfl
    cases h
  rw [stringChar, h]
  · rfl
  · exact fun same => other same

theorem unicodeEscape_control {c : Char} (control : c.toNat < 32) (rest : List Char) :
    unicodeEscape ('0' :: '0' :: Nat.digitChar (c.toNat / 16) :: Nat.digitChar (c.toNat % 16) ::
      rest) = some (c, rest) := by
  rw [unicodeEscape, hexUnit_control control]
  show (if _ then _ else _) = _
  rw [if_neg (by omega), if_neg (by omega), Char.ofNat_toNat]
  rfl

theorem unescapes_stringChar : Unescapes stringChar id := by
  intro c rest
  rcases escapedChar_cases c with ⟨same, -, backslash, printable⟩ | ⟨e, same, short⟩ |
    ⟨control, same⟩
  · rw [same]
    exact stringChar_plain backslash printable rest
  · rw [same]
    exact stringChar_short short rest
  · rw [same]
    exact unicodeEscape_control control rest

theorem looseChar_eq {cs : List Char} (plain : ∀ rest, cs ≠ '\\' :: 'u' :: rest) :
    looseChar cs = stringChar cs := by
  unfold looseChar
  split
  · exact absurd rfl (plain _)
  · rfl

/-- In a string that is skipped a control character is read as a letter. -/
theorem exists_unescapes_looseChar : ∃ as, Unescapes looseChar as := by
  have each (c : Char) : ∃ d, ∀ rest, looseChar (escapedChar c ++ rest) = some (d, rest) := by
    rcases escapedChar_cases c with ⟨same, -, backslash, printable⟩ | ⟨e, same, short⟩ |
      ⟨control, same⟩
    · refine ⟨c, fun rest => ?_⟩
      rw [same, List.singleton_append, looseChar_eq, stringChar_plain backslash printable]
      exact fun _ begins => backslash (List.cons.inj begins).1
    · refine ⟨c, fun rest => ?_⟩
      rw [same, List.cons_append, List.singleton_append, looseChar_eq, stringChar_short short]
      intro _ begins
      rw [(List.cons.inj (List.cons.inj begins).2).1] at short
      cases short
    · refine ⟨'u', fun rest => ?_⟩
      rw [same]
      simp only [looseChar, List.cons_append, List.nil_append, hexUnit_control control,
        Option.map_some]
  choose as read using each
  exact ⟨as, read⟩

/-- A printed character is not taken for the closing quote. -/
theorem exists_cons_escapedChar (c : Char) : ∃ d ds, escapedChar c = d :: ds ∧ d ≠ '"' := by
  rcases escapedChar_cases c with ⟨same, quote, -, -⟩ | ⟨e, same, -⟩ | ⟨-, same⟩
  · exact ⟨_, _, same, quote⟩
  · exact ⟨_, _, same, by decide⟩
  · exact ⟨_, _, same, by decide⟩

theorem stringBody_escaped (h : Unescapes char as) {fuel : ℕ} {cs : List Char}
    (enough : cs.length < fuel) (rest : List Char) :
    stringBody char fuel (cs.flatMap escapedChar ++ '"' :: rest) = some (cs.map as, rest) := by
  induction cs generalizing fuel with
  | nil =>
    obtain ⟨fuel, rfl⟩ : ∃ k, fuel = k + 1 := ⟨fuel - 1, by rw [List.length_nil] at enough; omega⟩
    rfl
  | cons c cs ih =>
    rw [List.length_cons] at enough
    obtain ⟨fuel, rfl⟩ : ∃ k, fuel = k + 1 := ⟨fuel - 1, by omega⟩
    obtain ⟨d, ds, begins, no_quote⟩ := exists_cons_escapedChar c
    have read := h c (cs.flatMap escapedChar ++ '"' :: rest)
    have step (cs : List Char) : stringBody char (fuel + 1) (d :: cs) =
        (char (d :: cs)).bind fun r => (stringBody char fuel r.2).bind fun m =>
          some (r.1 :: m.1, m.2) := by
      rw [stringBody]
      · rfl
      · exact fun rest same => no_quote (List.cons.inj same).1
    rw [List.flatMap_cons, List.append_assoc]
    rw [begins, List.cons_append] at read ⊢
    rw [step, read, Option.bind_some, ih (by omega)]
    rfl

theorem length_le_length_flatMap (cs : List Char) :
    cs.length ≤ (cs.flatMap escapedChar).length := by
  induction cs with
  | nil => exact le_rfl
  | cons c cs ih =>
    obtain ⟨d, ds, begins, -⟩ := exists_cons_escapedChar c
    rw [List.flatMap_cons, List.length_append, begins, List.length_cons, List.length_cons]
    omega

/-- A printed string is read as a string. -/
theorem quotedBy_stringChars (h : Unescapes char as) (s : String) (rest : List Char) :
    quotedBy char (stringChars s ++ rest) = some (String.ofList (s.toList.map as), rest) := by
  have enough := length_le_length_flatMap s.toList
  rw [stringChars, List.cons_append, List.append_assoc, List.singleton_append, quotedBy,
    stringBody_escaped h]
  · rfl
  · rw [List.length_append, List.length_cons]
    omega

theorem quotedString_stringChars (s : String) (rest : List Char) :
    quotedString (stringChars s ++ rest) = some (s, rest) := by
  rw [quotedString, quotedBy_stringChars unescapes_stringChar, List.map_id, String.ofList_toList]

end Strings

/-! ## Lists -/

section Lists

variable {α β : Type} {write : α → List Char} {item : Read β} {f : α → Option β} {close : Char}

/-- The items after the first, each behind a comma, and the closing mark. -/
def joined (write : α → List Char) (close : Char) : List α → List Char
  | [] => [close]
  | a :: rest => ',' :: (write a ++ joined write close rest)

theorem length_lt_length_joined (as : List α) : as.length < (joined write close as).length := by
  induction as with
  | nil => exact Nat.one_pos
  | cons a rest ih =>
    rw [joined, List.length_cons, List.length_cons, List.length_append]
    omega

theorem delimited_joined (closing : close ∈ [']', '\x7d']) (as : List α) (rest : List Char) :
    Delimited (joined write close as ++ rest) := by
  cases as with
  | nil => exact delimited_cons (List.mem_cons_of_mem _ closing) _
  | cons a as => exact delimited_cons List.mem_cons_self _

theorem skipBlanks_cons {c : Char} (solid : isBlank c = false) (cs : List Char) :
    skipBlanks (c :: cs) = c :: cs :=
  Specifier.dropWhile_of_head (by rintro _ ⟨⟩; exact solid)

/-- The written form of `a` is read as `f a`, wherever it stands in a printed text. -/
def Reads (item : Read β) (write : α → List Char) (f : α → Option β) (a : α) : Prop :=
  ∀ rest, Delimited rest → item (write a ++ rest) = (f a).map fun b => (b, rest)

/-- Items are read one by one, if each of them can be. -/
theorem separated_joined (closing : close ∈ [']', '\x7d']) {a : α} {as : List α}
    (each : ∀ b ∈ a :: as, Reads item write f b) {fuel : ℕ} (enough : as.length < fuel)
    (rest : List Char) : separated item close fuel (write a ++ (joined write close as ++ rest)) =
      ((a :: as).mapM f).map fun bs => (bs, rest) := by
  obtain ⟨solid, other⟩ : isBlank close = false ∧ close ≠ ',' := by
    have marks : ∀ c ∈ [']', '\x7d'], isBlank c = false ∧ c ≠ ',' := by simp [isBlank]
    exact marks close closing
  induction as generalizing a fuel with
  | nil =>
    obtain ⟨fuel, rfl⟩ : ∃ k, fuel = k + 1 := ⟨fuel - 1, by rw [List.length_nil] at enough; omega⟩
    rw [separated, each a List.mem_cons_self _ (delimited_joined closing [] rest)]
    cases made : f a with
    | none => simp [made]
    | some b => simp [made, joined, skipBlanks_cons solid, other]
  | cons a' as ih =>
    rw [List.length_cons] at enough
    obtain ⟨fuel, rfl⟩ : ∃ k, fuel = k + 1 := ⟨fuel - 1, by omega⟩
    obtain ⟨first, others⟩ := List.forall_mem_cons.1 each
    have next : separated item close fuel (write a' ++ (joined write close as ++ rest)) = _ :=
      ih others (by omega)
    rw [separated, first _ (delimited_joined closing (a' :: as) rest), List.mapM_cons]
    cases f a with
    | none => rfl
    | some b =>
      simp only [joined, List.cons_append, List.append_assoc, Option.map_some, bind,
        Option.bind_some, skipBlanks_cons (show isBlank ',' = false from rfl), if_pos, next]
      cases (a' :: as).mapM f <;> rfl

theorem enclosed_nil (solid : isBlank close = false) (rest : List Char) :
    enclosed item close (close :: rest) = some ([], rest) := by
  rw [enclosed, skipBlanks_cons solid]
  exact if_pos rfl

/-- The inside of a bracket, with an item or more. -/
theorem enclosed_joined (closing : close ∈ [']', '\x7d']) {a : α} {as : List α}
    (each : ∀ b ∈ a :: as, Reads item write f b) {c : Char} {cs : List Char}
    (begins : write a = c :: cs) (solid : isBlank c = false) (unclosed : c ≠ close)
    (rest : List Char) : enclosed item close (write a ++ (joined write close as ++ rest)) =
      ((a :: as).mapM f).map fun bs => (bs, rest) := by
  have enough : as.length < (write a ++ (joined write close as ++ rest)).length := by
    have : as.length < (joined write close as).length := length_lt_length_joined as
    rw [List.length_append, List.length_append]
    omega
  rw [← separated_joined closing each enough, enclosed]
  simp only [begins, List.cons_append, skipBlanks_cons solid]
  exact if_neg unclosed

/-- A name with its value, as it is printed. -/
def memberChars (write : α → List Char) (m : String × α) : List Char :=
  stringChars m.1 ++ ':' :: write m.2

theorem reads_member {label : Read String} {as : String → String}
    (labelled : ∀ s rest, label (stringChars s ++ rest) = some (as s, rest))
    {value : String → Read β} {g : String → α → Option β} {m : String × α}
    (valued : Reads (value (as m.1)) write (g m.1) m.2) :
    Reads (member label value) (memberChars write) (fun m => (g m.1 m.2).map fun b => (as m.1, b))
      m := by
  intro rest delimited
  have quote : skipBlanks (memberChars write m ++ rest) = memberChars write m ++ rest :=
    skipBlanks_cons rfl _
  rw [member, quote, memberChars, List.append_assoc, labelled]
  simp only [List.cons_append, skipBlanks_cons (show isBlank ':' = false from rfl), bind,
    Option.bind_some, valued rest delimited]
  cases g m.1 m.2 <;> rfl

end Lists

theorem itemsChars_eq (items : List Json) : itemsChars items = joined chars ']' items := by
  induction items with
  | nil => rfl
  | cons v rest ih => rw [itemsChars, ih, joined]

theorem membersChars_eq (members : List (String × Json)) :
    membersChars members = joined (memberChars chars) '\x7d' members := by
  induction members with
  | nil => rfl
  | cons m rest ih => rw [membersChars, ih, joined, memberChars, List.append_assoc]

/-! ## Values -/

mutual

/-- How deep the brackets of a value nest. -/
def depth : Json → ℕ
  | .null => 0
  | .bool _ => 0
  | .number _ => 0
  | .string _ => 0
  | .array items => itemsDepth items + 1
  | .object members => membersDepth members + 1
termination_by structural v => v

def itemsDepth : List Json → ℕ
  | [] => 0
  | v :: rest => max v.depth (itemsDepth rest)
termination_by structural vs => vs

def membersDepth : List (String × Json) → ℕ
  | [] => 0
  | (_, v) :: rest => max v.depth (membersDepth rest)
termination_by structural ms => ms

end

theorem depth_le_of_mem_items {items : List Json} : ∀ v ∈ items, v.depth ≤ itemsDepth items := by
  induction items with
  | nil => exact List.forall_mem_nil _
  | cons v rest ih =>
    refine List.forall_mem_cons.2 ⟨le_max_left _ _, fun w hw => ?_⟩
    exact (ih w hw).trans (le_max_right _ _)

theorem depth_le_of_mem_members {members : List (String × Json)} :
    ∀ m ∈ members, m.2.depth ≤ membersDepth members := by
  induction members with
  | nil => exact List.forall_mem_nil _
  | cons m rest ih =>
    refine List.forall_mem_cons.2 ⟨le_max_left _ _, fun w hw => ?_⟩
    exact (ih w hw).trans (le_max_right _ _)

/-- Induction on a value: what holds without brackets, and in brackets if it holds inside, holds. -/
theorem induction_depth {P : Json → Prop} (flat : ∀ v, v.depth = 0 → P v)
    (array : ∀ items, (∀ v ∈ items, P v) → P (.array items))
    (object : ∀ members, (∀ m ∈ members, P m.2) → P (.object members)) (v : Json) : P v := by
  obtain ⟨limit, within⟩ : ∃ limit, v.depth ≤ limit := ⟨_, le_rfl⟩
  induction limit generalizing v with
  | zero => exact flat v (Nat.le_zero.1 within)
  | succ limit ih =>
    cases v with
    | array items =>
      exact array items fun v hv =>
        ih v ((depth_le_of_mem_items v hv).trans (Nat.le_of_succ_le_succ within))
    | object members =>
      exact object members fun m hm =>
        ih m.2 ((depth_le_of_mem_members m hm).trans (Nat.le_of_succ_le_succ within))
    | _ => exact flat _ rfl

theorem allOrdered_iff {items : List Json} : AllOrdered items ↔ ∀ v ∈ items, v.Ordered := by
  induction items with
  | nil => exact iff_of_true trivial (List.forall_mem_nil _)
  | cons v rest ih => rw [AllOrdered, ih, List.forall_mem_cons]

theorem membersOrdered_iff {members : List (String × Json)} :
    MembersOrdered members ↔ ∀ m ∈ members, m.2.Ordered := by
  induction members with
  | nil => exact iff_of_true trivial (List.forall_mem_nil _)
  | cons m rest ih => rw [MembersOrdered, ih, List.forall_mem_cons]

/-- A value that can be read back: its members are in order, and its numbers are read back. -/
structure Printable (v : Json) : Prop where
  ordered : v.Ordered
  numbers : v.Every Number.Readable

theorem Printable.item {items : List Json} (h : (array items).Printable) :
    ∀ v ∈ items, v.Printable := fun v hv =>
  ⟨allOrdered_iff.1 h.ordered v hv, everyItem_iff.1 h.numbers v hv⟩

theorem Printable.member {members : List (String × Json)} (h : (object members).Printable) :
    ∀ m ∈ members, m.2.Printable := fun m hm =>
  ⟨membersOrdered_iff.1 h.ordered.2 m hm, everyMember_iff.1 h.numbers m hm⟩

/-- What a printed value begins with. -/
def Opens : Json → Char → Prop
  | .null, c => c = 'n'
  | .bool b, c => c = if b then 't' else 'f'
  | .number _, c => c = '-' ∨ c.isDigit = true
  | .string _, c => c = '"'
  | .array _, c => c = '['
  | .object _, c => c = '\x7b'

theorem ne_of_numeric {c d : Char} (h : c = '-' ∨ c.isDigit = true) (minus : d ≠ '-')
    (digit : d.isDigit = false) : c ≠ d := by
  rintro rfl
  rcases h with same | is_digit
  · exact minus same
  · rw [digit] at is_digit
    cases is_digit

theorem Opens.solid {v : Json} {c : Char} (h : v.Opens c) : isBlank c = false := by
  cases v with
  | number n =>
    rcases h with rfl | digit
    · rfl
    · exact Number.Plain.not_blank (.inl digit)
  | bool b => cases b <;> cases h <;> rfl
  | _ => cases h; rfl

theorem Opens.unclosed {v : Json} {c close : Char} (h : v.Opens c)
    (closing : close ∈ [']', '\x7d']) : c ≠ close := by
  simp only [List.mem_cons, List.not_mem_nil, or_false] at closing
  cases v with
  | number n => rcases closing with rfl | rfl <;> exact ne_of_numeric h (by decide) rfl
  | bool b => rcases closing with rfl | rfl <;> cases b <;> cases h <;> decide
  | _ => rcases closing with rfl | rfl <;> cases h <;> decide

theorem exists_opens {v : Json} (h : v.Printable) : ∃ c cs, v.chars = c :: cs ∧ v.Opens c := by
  cases v with
  | null => exact ⟨_, _, rfl, rfl⟩
  | bool b => cases b <;> exact ⟨_, _, rfl, rfl⟩
  | number n => exact Number.Readable.exists_cons h.numbers
  | string s => exact ⟨_, _, rfl, rfl⟩
  | array items => cases items <;> exact ⟨_, _, rfl, rfl⟩
  | object members => cases members <;> exact ⟨_, _, rfl, rfl⟩

theorem scalar_of_numeric {c : Char} (h : c = '-' ∨ c.isDigit = true) (cs : List Char) :
    scalar (c :: cs) = (literal (c :: cs)).bind fun r =>
      (Number.ofLiteral r.1).bind fun n => some (.number n, r.2) := by
  have other {d : Char} {tail : List Char} (minus : d ≠ '-') (digit : d.isDigit = false) :
      c :: cs ≠ d :: tail := fun same => ne_of_numeric h minus digit (List.cons.inj same).1
  unfold scalar
  split
  · rename_i same
    exact absurd same (other (by decide) rfl)
  · rename_i same
    exact absurd same (other (by decide) rfl)
  · rename_i same
    exact absurd same (other (by decide) rfl)
  · rename_i same
    exact absurd same (other (by decide) rfl)
  · rfl

theorem scalar_number {n : Number} (h : n.Readable) {rest : List Char}
    (delimited : Delimited rest) : scalar (n.chars ++ rest) = some (.number n, rest) := by
  obtain ⟨l, number, read⟩ := h.reads_literal
  obtain ⟨c, cs, begins, numeric⟩ := h.exists_cons
  rw [begins, List.cons_append, scalar_of_numeric numeric, ← List.cons_append, ← begins,
    read rest delimited, Option.bind_some, number]
  rfl

theorem scalar_chars {v : Json} (h : v.Printable) (flat : v.depth = 0) {rest : List Char}
    (delimited : Delimited rest) : scalar (v.chars ++ rest) = some (v, rest) := by
  cases v with
  | null => rfl
  | bool b => cases b <;> rfl
  | number n => exact scalar_number h.numbers delimited
  | string s =>
    show (quotedString (stringChars s ++ rest)).map _ = _
    rw [quotedString_stringChars]
    rfl
  | array items => cases flat
  | object members => cases flat

theorem value_of_scalar {c : Char} (solid : isBlank c = false) (no_array : c ≠ '[')
    (no_object : c ≠ '\x7b') (depth : ℕ) (cs : List Char) :
    value depth (c :: cs) = scalar (c :: cs) := by
  cases depth with
  | zero => rw [value, skipBlanks_cons solid]
  | succ depth =>
    unfold value
    rw [skipBlanks_cons solid]
    split
    · rename_i same
      exact absurd (List.cons.inj same).1 no_array
    · rename_i same
      exact absurd (List.cons.inj same).1 no_object
    · rfl

/-! ## Values in brackets -/

section Brackets

variable {β : Type} {items : List Json} {members : List (String × Json)}

theorem chars_array (items : List Json) :
    (array items).chars = '[' :: (array items).chars.tail := by cases items <;> rfl

theorem chars_object (members : List (String × Json)) :
    (object members).chars = '\x7b' :: (object members).chars.tail := by cases members <;> rfl

theorem enclosed_items {item : Read β} {f : Json → Option β} (h : (array items).Printable)
    (each : ∀ v ∈ items, Reads item chars f v) (rest : List Char) :
    enclosed item ']' ((array items).chars.tail ++ rest) =
      (items.mapM f).map fun bs => (bs, rest) := by
  cases items with
  | nil => exact enclosed_nil rfl rest
  | cons v items =>
    obtain ⟨c, cs, begins, opens⟩ := exists_opens (h.item v List.mem_cons_self)
    rw [chars, List.tail_cons, itemsChars_eq, List.append_assoc]
    exact enclosed_joined (by decide) each begins opens.solid (opens.unclosed (by decide)) rest

theorem enclosed_members {item : Read β} {f : String × Json → Option β}
    (each : ∀ m ∈ members, Reads item (memberChars chars) f m) (rest : List Char) :
    enclosed item '\x7d' ((object members).chars.tail ++ rest) =
      (members.mapM f).map fun bs => (bs, rest) := by
  cases members with
  | nil => exact enclosed_nil rfl rest
  | cons m members =>
    have inside : (object (m :: members)).chars.tail =
        memberChars chars m ++ joined (memberChars chars) '\x7d' members := by
      rw [chars, List.tail_cons, membersChars_eq, memberChars, List.append_assoc]
    rw [inside, List.append_assoc]
    exact enclosed_joined (by decide) each rfl rfl (by decide) rest

end Brackets

/-! ## Reading values back -/

/-- A value without brackets does not begin with one. -/
theorem Opens.flat {v : Json} {c : Char} (h : v.Opens c) (flat : v.depth = 0) :
    c ≠ '[' ∧ c ≠ '\x7b' := by
  cases v with
  | number n => exact ⟨ne_of_numeric h (by decide) rfl, ne_of_numeric h (by decide) rfl⟩
  | bool b => cases b <;> cases h <;> decide
  | array items => cases flat
  | object members => cases flat
  | _ => cases h; decide

theorem reads_value_flat {v : Json} (h : v.Printable) (flat : v.depth = 0) (limit : ℕ) :
    Reads (value limit) chars some v := by
  intro rest delimited
  obtain ⟨c, cs, begins, opens⟩ := exists_opens h
  obtain ⟨no_array, no_object⟩ := opens.flat flat
  rw [begins, List.cons_append, value_of_scalar opens.solid no_array no_object,
    ← List.cons_append, ← begins, scalar_chars h flat delimited]
  rfl

theorem ofPairs_of_ordered {members : List (String × Json)} (ordered : Entries.Ordered members) :
    Entries.ofPairs members = members := by
  refine Entries.eq_of_find? (Entries.ordered_ofPairs members) ordered fun name => ?_
  rw [Entries.ofPairs, Entries.find?_foldl_insert ordered]
  exact Option.or_none

/-- A reader that knows values without brackets, and values in brackets if it knows what is in them,
knows all values that are not too deep. -/
theorem reads_nested {β : Type} {reader : ℕ → Read β} {f : Json → Option β}
    (flat : ∀ limit v, v.Printable → v.depth = 0 → Reads (reader limit) chars f v)
    (in_array : ∀ limit items, (array items).Printable →
      (∀ v ∈ items, Reads (reader limit) chars f v) →
        Reads (reader (limit + 1)) chars f (array items))
    (in_object : ∀ limit members, (object members).Printable →
      (∀ m ∈ members, Reads (reader limit) chars f m.2) →
        Reads (reader (limit + 1)) chars f (object members))
    {limit : ℕ} {v : Json} (h : v.Printable) (within : v.depth ≤ limit) :
    Reads (reader limit) chars f v := by
  induction limit generalizing v with
  | zero => exact flat 0 v h (Nat.le_zero.1 within)
  | succ limit ih =>
    cases v with
    | array items =>
      exact in_array limit items h fun v hv =>
        ih (h.item v hv) ((depth_le_of_mem_items v hv).trans (Nat.le_of_succ_le_succ within))
    | object members =>
      exact in_object limit members h fun m hm =>
        ih (h.member m hm) ((depth_le_of_mem_members m hm).trans (Nat.le_of_succ_le_succ within))
    | _ => exact flat _ _ h rfl

/-- A printed value is read back, up to the depth that is read. -/
theorem reads_value {limit : ℕ} {v : Json} (h : v.Printable) (within : v.depth ≤ limit) :
    Reads (value limit) chars some v := by
  refine reads_nested (fun limit v h flat => reads_value_flat h flat limit)
    (fun limit items h each rest _ => ?_) (fun limit members h each rest _ => ?_) h within
  · have all : items.mapM some = some items := by
      simpa using List.mapM_pure (m := Option) (l := items) (f := id)
    rw [chars_array, List.cons_append]
    show (enclosed (value limit) ']' _).map _ = _
    rw [enclosed_items h each, all]
    rfl
  · have members_read (m : String × Json) (hm : m ∈ members) :
        Reads (member quotedString fun _ => value limit) (memberChars chars) some m :=
      reads_member (g := fun _ => some) quotedString_stringChars (each m hm)
    have all : members.mapM some = some members := by
      simpa using List.mapM_pure (m := Option) (l := members) (f := id)
    rw [chars_object, List.cons_append]
    show (enclosed (member quotedString fun _ => value limit) '\x7d' _).map _ = _
    rw [enclosed_members members_read, all]
    show some (object (Entries.ofPairs members), rest) = _
    rw [ofPairs_of_ordered h.ordered.1]
    rfl

/-- Parsing a printed value gives that value back. -/
theorem parse_print {v : Json} (h : v.Printable) (within : v.depth ≤ depthLimit) :
    parse v.print = some v := by
  have read := reads_value h within [] delimited_nil
  rw [List.append_nil] at read
  rw [parse, print, String.toList_ofList, read]
  rfl

/-! ## Passing over values -/

theorem skipScalar_of_numeric {c : Char} (h : c = '-' ∨ c.isDigit = true) (cs : List Char) :
    skipScalar (c :: cs) = (literal (c :: cs)).map fun r => ((), r.2) := by
  have other {d : Char} {tail : List Char} (minus : d ≠ '-') (digit : d.isDigit = false) :
      c :: cs ≠ d :: tail := fun same => ne_of_numeric h minus digit (List.cons.inj same).1
  unfold skipScalar
  split
  · rename_i same
    exact absurd same (other (by decide) rfl)
  split
  · rename_i same
    exact absurd same (other (by decide) rfl)
  · rename_i same
    exact absurd same (other (by decide) rfl)
  · rename_i same
    exact absurd same (other (by decide) rfl)
  · rfl

theorem skipScalar_number {n : Number} (h : n.Readable) {rest : List Char}
    (delimited : Delimited rest) : skipScalar (n.chars ++ rest) = some ((), rest) := by
  obtain ⟨l, -, read⟩ := h.reads_literal
  obtain ⟨c, cs, begins, numeric⟩ := h.exists_cons
  rw [begins, List.cons_append, skipScalar_of_numeric numeric, ← List.cons_append, ← begins,
    read rest delimited]
  rfl

theorem skipScalar_chars {v : Json} (h : v.Printable) (flat : v.depth = 0) {rest : List Char}
    (delimited : Delimited rest) : skipScalar (v.chars ++ rest) = some ((), rest) := by
  cases v with
  | null => rfl
  | bool b => cases b <;> rfl
  | number n => exact skipScalar_number h.numbers delimited
  | string s =>
    obtain ⟨as, unescapes⟩ := exists_unescapes_looseChar
    show (quotedBy looseChar (stringChars s ++ rest)).map _ = _
    rw [quotedBy_stringChars unescapes]
    rfl
  | array items => cases flat
  | object members => cases flat

theorem skipTo_of_scalar {c : Char} (solid : isBlank c = false) (no_array : c ≠ '[')
    (no_object : c ≠ '\x7b') (depth : ℕ) (cs : List Char) :
    skipTo depth (c :: cs) = skipScalar (c :: cs) := by
  cases depth with
  | zero => rw [skipTo, skipBlanks_cons solid]
  | succ depth =>
    unfold skipTo
    rw [skipBlanks_cons solid]
    split
    · rename_i same
      exact absurd (List.cons.inj same).1 no_array
    · rename_i same
      exact absurd (List.cons.inj same).1 no_object
    · rfl

theorem reads_skipTo {limit : ℕ} {v : Json} (h : v.Printable) (within : v.depth ≤ limit) :
    Reads (skipTo limit) chars (fun _ => some ()) v := by
  refine reads_nested (fun limit v h flat rest delimited => ?_)
    (fun limit items h each rest _ => ?_) (fun limit members h each rest _ => ?_) h within
  · obtain ⟨c, cs, begins, opens⟩ := exists_opens h
    obtain ⟨no_array, no_object⟩ := opens.flat flat
    rw [begins, List.cons_append, skipTo_of_scalar opens.solid no_array no_object,
      ← List.cons_append, ← begins, skipScalar_chars h flat delimited]
    rfl
  · have all : items.mapM (fun _ => some ()) = some (items.map fun _ => ()) :=
      List.mapM_pure
    rw [chars_array, List.cons_append]
    show (enclosed (skipTo limit) ']' _).map _ = _
    rw [enclosed_items h each, all]
    rfl
  · obtain ⟨as, unescapes⟩ := exists_unescapes_looseChar
    have members_read (m : String × Json) (hm : m ∈ members) :
        Reads (member (quotedBy looseChar) fun _ => skipTo limit) (memberChars chars)
          (fun m => some (String.ofList (m.1.toList.map as), ())) m :=
      reads_member (g := fun _ _ => some ()) (quotedBy_stringChars unescapes) (each m hm)
    have all : members.mapM (fun m => some (String.ofList (m.1.toList.map as), ())) =
        some (members.map fun m => (String.ofList (m.1.toList.map as), ())) := List.mapM_pure
    rw [chars_object, List.cons_append]
    show (enclosed (member (quotedBy looseChar) fun _ => skipTo limit) '\x7d' _).map _ = _
    rw [enclosed_members members_read, all]
    rfl

theorem itemsDepth_le_length {items : List Json} (each : ∀ v ∈ items, v.depth ≤ v.chars.length) :
    itemsDepth items ≤ (itemsChars items).length := by
  induction items with
  | nil => exact Nat.zero_le _
  | cons v rest ih =>
    obtain ⟨first, others⟩ := List.forall_mem_cons.1 each
    have behind := ih others
    simp only [itemsDepth, itemsChars, List.length_cons, List.length_append]
    omega

theorem membersDepth_le_length {members : List (String × Json)}
    (each : ∀ m ∈ members, m.2.depth ≤ m.2.chars.length) :
    membersDepth members ≤ (membersChars members).length := by
  induction members with
  | nil => exact Nat.zero_le _
  | cons m rest ih =>
    obtain ⟨first, others⟩ := List.forall_mem_cons.1 each
    have behind := ih others
    simp only [membersDepth, membersChars, List.length_cons, List.length_append]
    omega

/-- Every bracket of a value is printed. -/
theorem depth_le_length_chars (v : Json) : v.depth ≤ v.chars.length := by
  induction v using induction_depth with
  | flat v flat => exact flat ▸ Nat.zero_le _
  | array items each =>
    cases items with
    | nil => decide
    | cons v rest =>
      obtain ⟨first, others⟩ := List.forall_mem_cons.1 each
      have behind := itemsDepth_le_length others
      simp only [depth, itemsDepth, chars, List.length_cons, List.length_append]
      omega
  | object members each =>
    cases members with
    | nil => decide
    | cons m rest =>
      obtain ⟨first, others⟩ := List.forall_mem_cons.1 each
      have behind := membersDepth_le_length others
      simp only [depth, membersDepth, chars, List.length_cons, List.length_append]
      omega

/-- A printed value of any depth can be passed over. -/
theorem reads_skip {v : Json} (h : v.Printable) : Reads skip chars (fun _ => some ()) v := by
  intro rest delimited
  have deep : v.depth ≤ (v.chars ++ rest).length := by
    have := depth_le_length_chars v
    rw [List.length_append]
    omega
  exact reads_skipTo h deep rest delimited

end EventRules.Json
