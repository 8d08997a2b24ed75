/-
Scanning compact texts. A scanner takes the characters from where it stands; it succeeds with the
characters that follow, or fails with those where it stood. A whole text is trimmed first and must
be used up; a failure tells its form, the trimmed text, and the place in bytes.
-/
import EventRules.Text.Blank
import EventRules.Decimal.Digits
namespace EventRules

/-! ## Failures -/

/-- The compact text forms. -/
inductive SpecifierForm where
  | range | item | state | count | potion
deriving DecidableEq

def SpecifierForm.text : SpecifierForm → String
  | .range => "range expression"
  | .item => "item descriptor"
  | .state => "state specifier"
  | .count => "count"
  | .potion => "potion"

/-- A text that is not of its form. -/
structure SpecifierError where
  form : SpecifierForm
  input : String
  offset : Nat
deriving DecidableEq

def SpecifierError.message (e : SpecifierError) : String :=
  "bad " ++ e.form.text ++ " '" ++ e.input ++ "' at offset " ++ Decimal.text e.offset

/-! ## Scanners -/

namespace Specifier

abbrev Scan (α : Type) := List Char → Except (List Char) (α × List Char)

variable {α : Type}

/-- Blanks inside a specifier are space and tab. -/
def isBlank (c : Char) : Bool := c == ' ' || c == '\t'

def skipBlanks (cs : List Char) : List Char := cs.dropWhile isBlank

/-- A single character. -/
def mark (c : Char) : Scan Unit
  | d :: rest => if d = c then .ok ((), rest) else .error (d :: rest)
  | [] => .error []

/-- A fixed text. -/
def word (expected : List Char) : Scan Unit := fun cs =>
  if expected.isPrefixOf cs then .ok ((), cs.drop expected.length) else .error cs

/-- A positive or negative numeral that starts with no zero, or the single digit zero. -/
def numeral (cs : List Char) : Option (Int × List Char) :=
  let (negative, rest) := Decimal.sign cs
  let (digits, after) := Decimal.span rest
  match digits with
  | [] => none
  | d :: _ =>
    if d != '0' then
      let n : Int := Decimal.value digits
      some (if negative then -n else n, after)
    else
      match cs with
      | '0' :: after => some (0, after)
      | _ => none

/-- A numeral that `fits`, with blanks around it. -/
def integer (fits : Int → Option α) : Scan α := fun cs =>
  let start := skipBlanks cs
  match numeral start with
  | none => .error start
  | some (n, rest) =>
    match fits n with
    | none => .error start
    | some v => .ok (v, skipBlanks rest)

/-- The first of the scanners that succeeds; if none does, the place is where they started. -/
def firstOf : List (Scan α) → Scan α
  | [], cs => .error cs
  | scan :: scans, cs =>
    match scan cs with
    | .ok r => .ok r
    | .error _ => firstOf scans cs

/-- What `scan` reads, or nothing if it fails. -/
def optional (scan : Scan α) : Scan (Option α) := fun cs =>
  match scan cs with
  | .ok (v, rest) => .ok (some v, rest)
  | .error _ => .ok (none, cs)

/-- All that is left, trimmed. -/
def restTrimmed : Scan String := fun cs => .ok (String.ofList (Text.trim cs), [])

/-- The characters up to one that stops, trimmed; there must be something left. -/
def upTo (stops : Char → Bool) : Scan String := fun cs =>
  let taken := Text.trim (cs.takeWhile fun c => !stops c)
  if taken.isEmpty then .error cs
  else .ok (String.ofList taken, cs.dropWhile fun c => !stops c)

/-- Reads a whole text by `scan`. -/
def whole (form : SpecifierForm) (scan : Scan α) (text : String) : Except SpecifierError α :=
  let input := Text.trim text.toList
  let failure (rest : List Char) : SpecifierError :=
    ⟨form, String.ofList input, Text.byteSize input - Text.byteSize rest⟩
  match scan input with
  | .ok (v, []) => .ok v
  | .ok (_, rest) => .error (failure rest)
  | .error rest => .error (failure rest)

end Specifier

end EventRules
