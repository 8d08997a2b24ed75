/-
Numbers in specifiers: what a written number is, said without the scanner, and that the scanner
reads exactly these. It is maximal: behind a number it stops where neither a digit nor a blank
follows, so what it reads there is all of the number.
-/
import EventRules.Specifier.Scan
import Mathlib.Data.List.TakeWhile

namespace EventRules

/-- A 64-bit integer fits as what it stands for, and nothing else does. -/
theorem Decimal.int64?_eq_some_iff {n : Int} {v : Int64} : int64? n = some v ↔ n = v.toInt := by
  unfold int64?
  have low := v.le_toInt
  have high := v.toInt_lt
  split
  · rename_i fits
    rw [Option.some.injEq]
    constructor
    · rintro rfl
      exact (Int64.toInt_ofInt_of_le (by omega) (by omega)).symm
    · rintro rfl
      exact v.ofInt_toInt
  · constructor
    · intro h
      cases h
    · rintro rfl
      omega

namespace Specifier

/-! ## Written numbers -/

/-- An optional sign; `true` is minus. -/
inductive Sign : List Char → Bool → Prop
  | none : Sign [] false
  | plus : Sign ['+'] false
  | minus : Sign ['-'] true

/-- A numeral: the digit zero, or an optional sign, a digit other than zero and any digits. -/
inductive Numeral : List Char → Int → Prop
  | zero : Numeral ['0'] 0
  | signed {sign : List Char} {negative : Bool} {d : Char} {ds : List Char}
    (signed : Sign sign negative) (digit : d.isDigit = true) (nonzero : d ≠ '0')
    (digits : ∀ c ∈ ds, c.isDigit = true) :
    Numeral (sign ++ d :: ds)
      (if negative then -(Decimal.value (d :: ds) : Int) else Decimal.value (d :: ds))

/-- A numeral with blanks around it. -/
inductive Padded : List Char → Int → Prop
  | mk {before digits after : List Char} {n : Int} (before_blank : ∀ c ∈ before, isBlank c = true)
    (numeral : Numeral digits n) (after_blank : ∀ c ∈ after, isBlank c = true) :
    Padded (before ++ (digits ++ after)) n

/-- A character that a written number may begin with. -/
def opens (c : Char) : Bool := isBlank c || c.isDigit || c == '+' || c == '-'

/-- A text that a number in front of it does not extend into. -/
def Stops (rest : List Char) : Prop := ∀ c ∈ rest.head?, isBlank c = false ∧ c.isDigit = false

theorem stops_nil : Stops [] := fun _ h => by cases h

theorem stops_cons {c : Char} {rest : List Char} (blank : isBlank c = false)
    (digit : c.isDigit = false) : Stops (c :: rest) := by
  rintro _ ⟨⟩
  exact ⟨blank, digit⟩

/-! ## Characters -/

theorem isBlank_of_isDigit {c : Char} (h : c.isDigit = true) : isBlank c = false := by
  rw [isBlank, Bool.or_eq_false_iff, beq_eq_false_iff_ne, beq_eq_false_iff_ne]
  constructor
  · rintro rfl
    cases h
  · rintro rfl
    cases h

theorem isDigit_of_isBlank {c : Char} (h : isBlank c = true) : c.isDigit = false := by
  by_contra digit
  rw [isBlank_of_isDigit (by simpa using digit)] at h
  cases h

theorem dropWhile_of_head {p : Char → Bool} {cs : List Char} (h : ∀ c ∈ cs.head?, p c = false) :
    cs.dropWhile p = cs := by
  cases cs with
  | nil => rfl
  | cons c rest => rw [List.dropWhile_cons_of_neg (by simp [h c rfl])]

theorem takeWhile_of_head {p : Char → Bool} {cs : List Char} (h : ∀ c ∈ cs.head?, p c = false) :
    cs.takeWhile p = [] := by
  cases cs with
  | nil => rfl
  | cons c rest => rw [List.takeWhile_cons_of_neg (by simp [h c rfl])]

/-- Digits that end where no digit follows are the leading digits. -/
theorem span_append {digits rest : List Char} (all : ∀ c ∈ digits, c.isDigit = true)
    (stop : ∀ c ∈ rest.head?, c.isDigit = false) : Decimal.span (digits ++ rest) = (digits, rest) := by
  rw [Decimal.span, List.takeWhile_append_of_pos all, List.dropWhile_append_of_pos all,
    takeWhile_of_head stop, dropWhile_of_head stop, List.append_nil]

/-! ## Numerals -/

theorem Numeral.head {written : List Char} {n : Int} (h : Numeral written n) :
    ∃ c rest, written = c :: rest ∧ isBlank c = false ∧ opens c = true := by
  cases h with
  | zero => exact ⟨'0', [], rfl, rfl, rfl⟩
  | signed sign digit nonzero digits =>
    cases sign with
    | none => exact ⟨_, _, rfl, isBlank_of_isDigit digit, by simp [opens, digit]⟩
    | plus => exact ⟨_, _, rfl, rfl, rfl⟩
    | minus => exact ⟨_, _, rfl, rfl, rfl⟩

/-- A sign is taken off where it stands, and a digit stands for no sign. -/
theorem sign_append {sign rest : List Char} {negative : Bool} {d : Char} (h : Sign sign negative)
    (digit : d.isDigit = true) : Decimal.sign (sign ++ d :: rest) = (negative, d :: rest) := by
  cases h with
  | none =>
    rw [List.nil_append, Decimal.sign]
    · rintro rest ⟨⟩
      cases digit
    · rintro rest ⟨⟩
      cases digit
  | plus => rfl
  | minus => rfl

theorem sign_sound (cs : List Char) :
    ∃ sign, cs = sign ++ (Decimal.sign cs).2 ∧ Sign sign (Decimal.sign cs).1 := by
  unfold Decimal.sign
  split
  · exact ⟨_, rfl, .minus⟩
  · exact ⟨_, rfl, .plus⟩
  · exact ⟨_, rfl, .none⟩

theorem numeral_complete {written rest : List Char} {n : Int} (h : Numeral written n)
    (stop : ∀ c ∈ rest.head?, c.isDigit = false) : numeral (written ++ rest) = some (n, rest) := by
  unfold numeral
  cases h with
  | zero =>
    have taken : Decimal.sign ('0' :: rest) = (false, '0' :: rest) := rfl
    have span : Decimal.span ('0' :: rest) = (['0'], rest) :=
      @span_append ['0'] rest (fun c hc => by rw [List.mem_singleton.1 hc]; rfl) stop
    simp [taken, span]
  | @signed sign negative d ds signed digit nonzero digits =>
    have taken : Decimal.sign (sign ++ d :: (ds ++ rest)) = (negative, d :: (ds ++ rest)) :=
      sign_append signed digit
    have span : Decimal.span (d :: (ds ++ rest)) = (d :: ds, rest) :=
      @span_append (d :: ds) rest (List.forall_mem_cons.2 ⟨digit, digits⟩) stop
    simp [taken, span, nonzero]

theorem numeral_sound {cs rest : List Char} {n : Int} (h : numeral cs = some (n, rest)) :
    ∃ written, cs = written ++ rest ∧ Numeral written n := by
  unfold numeral at h
  obtain ⟨sign, split_sign, signed⟩ := sign_sound cs
  have split_digits := List.takeWhile_append_dropWhile (p := Char.isDigit) (l := (Decimal.sign cs).2)
  simp only [Decimal.span] at h
  rcases hd : (Decimal.sign cs).2.takeWhile Char.isDigit with _ | ⟨d, ds⟩
  · rw [hd] at h
    cases h
  · simp only [hd] at h
    rw [hd] at split_digits
    split at h
    · rename_i nonzero
      cases h
      have all : ∀ c ∈ d :: ds, c.isDigit = true := fun c hc => by
        rw [← hd] at hc
        exact List.mem_takeWhile_imp hc
      obtain ⟨digit, digits⟩ := List.forall_mem_cons.1 all
      refine ⟨sign ++ d :: ds, ?_, .signed signed digit (by simpa using nonzero) digits⟩
      rw [List.append_assoc, split_digits]
      exact split_sign
    -- the digit zero stands alone, whatever digits follow it
    · split at h
      · cases h
        exact ⟨['0'], rfl, .zero⟩
      · cases h

/-! ## Numbers with blanks -/

theorem Padded.head {written : List Char} {n : Int} (h : Padded written n) :
    ∃ c rest, written = c :: rest ∧ opens c = true := by
  obtain ⟨before_blank, numeral, -⟩ := h
  rename_i before digits after
  obtain ⟨c, rest, rfl, -, first⟩ := numeral.head
  cases before with
  | nil => exact ⟨c, rest ++ after, rfl, first⟩
  | cons b before =>
    have blank := before_blank b List.mem_cons_self
    exact ⟨b, before ++ (c :: rest ++ after), rfl, by simp [opens, blank]⟩

/-- A text that a number may begin with begins with nothing else. -/
theorem not_prefix_of_opens {c d : Char} {symbol rest : List Char} (first : opens d = true)
    (other : opens c = false) : ¬ c :: symbol <+: d :: rest := by
  rw [List.cons_prefix_cons]
  rintro ⟨rfl, -⟩
  rw [first] at other
  cases other

variable {α : Type} {fits : Int → Option α} {v : α}

theorem integer_complete {written rest : List Char} {n : Int} (h : Padded written n)
    (fit : fits n = some v) (stop : Stops rest) :
    integer fits (written ++ rest) = .ok (v, rest) := by
  obtain ⟨before_blank, numeral, after_blank⟩ := h
  rename_i before digits after
  have start : skipBlanks (before ++ (digits ++ after) ++ rest) = digits ++ (after ++ rest) := by
    obtain ⟨c, more, rfl, solid, -⟩ := numeral.head
    rw [skipBlanks, List.append_assoc, List.dropWhile_append_of_pos before_blank, List.append_assoc,
      List.cons_append, List.dropWhile_cons_of_neg (by simp [solid])]
  have behind : ∀ c ∈ (after ++ rest).head?, c.isDigit = false := by
    cases after with
    | nil => exact fun c hc => (stop c hc).2
    | cons a after =>
      rintro _ ⟨⟩
      exact isDigit_of_isBlank (after_blank a List.mem_cons_self)
  have passed : skipBlanks (after ++ rest) = rest := by
    rw [skipBlanks, List.dropWhile_append_of_pos after_blank,
      dropWhile_of_head fun c hc => (stop c hc).1]
  simp only [integer, start, numeral_complete numeral behind, fit, passed]

theorem integer_sound {cs rest : List Char} (h : integer fits cs = .ok (v, rest)) :
    ∃ written n, cs = written ++ rest ∧ Padded written n ∧ fits n = some v := by
  unfold integer at h
  dsimp only at h
  split at h
  · cases h
  · rename_i n behind read
    obtain ⟨digits, split_digits, numeral⟩ := numeral_sound read
    split at h
    · cases h
    · rename_i fit
      cases h
      refine ⟨cs.takeWhile isBlank ++ (digits ++ behind.takeWhile isBlank), n, ?_,
        .mk (fun c hc => List.mem_takeWhile_imp hc) numeral (fun c hc => List.mem_takeWhile_imp hc),
        fit⟩
      rw [List.append_assoc, List.append_assoc, skipBlanks, List.takeWhile_append_dropWhile,
        ← split_digits, skipBlanks, List.takeWhile_append_dropWhile]

end Specifier

end EventRules
