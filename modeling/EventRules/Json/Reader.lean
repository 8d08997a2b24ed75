/-
Reading JSON texts. The grammar is the strict one: blanks are space, tab, line feed and carriage
return, no comma trails, no zero leads, and a text is one value with nothing but blanks around it.
Arrays and objects nest at most 127 deep. Every reader takes the characters from where it stands and
returns its result with the characters that follow.
-/
import EventRules.Json.Number
namespace EventRules.Json

/-! ## Blanks and strings -/

def isBlank (c : Char) : Bool := c == ' ' || c == '\t' || c == '\n' || c == '\r'

def skipBlanks (cs : List Char) : List Char := cs.dropWhile isBlank

def hexDigit? (c : Char) : Option Nat :=
  if '0' ≤ c ∧ c ≤ '9' then some (c.toNat - 48)
  else if 'a' ≤ c ∧ c ≤ 'f' then some (c.toNat - 87)
  else if 'A' ≤ c ∧ c ≤ 'F' then some (c.toNat - 55)
  else none

/-- Four hexadecimal digits. -/
def hexUnit : List Char → Option (Nat × List Char)
  | a :: b :: c :: d :: rest => do
    let high := (← hexDigit? a) * 16 + (← hexDigit? b)
    let low := (← hexDigit? c) * 16 + (← hexDigit? d)
    return (high * 256 + low, rest)
  | _ => none

/-- The character of a `u` escape: one code unit, or a high surrogate with its low one after it.
A surrogate without its partner is no character. -/
def unicodeEscape (cs : List Char) : Option (Char × List Char) := do
  let (n, rest) ← hexUnit cs
  if 0xD800 ≤ n ∧ n ≤ 0xDBFF then
    match rest with
    | '\\' :: 'u' :: rest =>
      let (m, rest) ← hexUnit rest
      if 0xDC00 ≤ m ∧ m ≤ 0xDFFF then
        return (Char.ofNat (0x10000 + (n - 0xD800) * 0x400 + (m - 0xDC00)), rest)
      else none
    | _ => none
  else if 0xDC00 ≤ n ∧ n ≤ 0xDFFF then none
  else return (Char.ofNat n, rest)

/-- The character of an escape that stands for itself or for a control character. -/
def shortEscape? : Char → Option Char
  | '"' => some '"'
  | '\\' => some '\\'
  | '/' => some '/'
  | 'b' => some '\x08'
  | 'f' => some '\x0c'
  | 'n' => some '\n'
  | 'r' => some '\r'
  | 't' => some '\t'
  | _ => none

/-- One character of a string. -/
def stringChar : List Char → Option (Char × List Char)
  | '\\' :: 'u' :: rest => unicodeEscape rest
  | '\\' :: c :: rest => (shortEscape? c).map fun e => (e, rest)
  | '\\' :: [] => none
  | c :: rest => if c.toNat < 32 then none else some (c, rest)
  | [] => none

/-- What is read from where it stands, with the characters that follow. -/
abbrev Read (α : Type) := List Char → Option (α × List Char)

/-- A string from behind its opening quote, its characters read by `char`; `fuel` bounds them. -/
def stringBody (char : Read Char) : Nat → Read (List Char)
  | 0, _ => none
  | _ + 1, '"' :: rest => some ([], rest)
  | fuel + 1, cs => do
    let (c, rest) ← char cs
    let (more, rest) ← stringBody char fuel rest
    return (c :: more, rest)

/-- A string with its quotes. -/
def quotedBy (char : Read Char) : Read String
  | '"' :: rest =>
    (stringBody char (rest.length + 1) rest).map fun (cs, r) => (String.ofList cs, r)
  | _ => none

def quotedString : Read String := quotedBy stringChar

/-! ## Number literals -/

/-- The digits before the point: a zero, or digits that do not start with one. -/
def wholeDigits : List Char → Option (List Char × List Char)
  | '0' :: rest => some (['0'], rest)
  | c :: rest => if c.isDigit then some (Decimal.span (c :: rest)) else none
  | [] => none

/-- At least one digit. -/
def someDigits (cs : List Char) : Option (List Char × List Char) :=
  let (digits, rest) := Decimal.span cs
  if digits.isEmpty then none else some (digits, rest)

def fractionPart : List Char → Option (Option (List Char) × List Char)
  | '.' :: rest => (someDigits rest).map fun (digits, r) => (some digits, r)
  | cs => some (none, cs)

def exponentPart : List Char → Option (Option Int × List Char)
  | [] => some (none, [])
  | c :: rest =>
    if c = 'e' ∨ c = 'E' then do
      let (negative, rest) := Decimal.sign rest
      let (digits, rest) ← someDigits rest
      let n : Int := Decimal.value digits
      return (some (if negative then -n else n), rest)
    else some (none, c :: rest)

/-- A number literal. -/
def literal (cs : List Char) : Option (Literal × List Char) := do
  let (negative, rest) := match cs with
    | '-' :: rest => (true, rest)
    | cs => (false, cs)
  let (whole, rest) ← wholeDigits rest
  let (fraction, rest) ← fractionPart rest
  let (exponent, rest) ← exponentPart rest
  return (⟨negative, whole, fraction, exponent⟩, rest)

/-! ## Values -/

/-- What `item` reads, once or more with commas between, up to `close`; `fuel` bounds the items. -/
def separated {α : Type} (item : Read α) (close : Char) : Nat → Read (List α)
  | 0, _ => none
  | fuel + 1, cs => do
    let (v, rest) ← item cs
    match skipBlanks rest with
    | [] => none
    | c :: rest =>
      if c = ',' then do
        let (more, rest) ← separated item close fuel rest
        return (v :: more, rest)
      else if c = close then return ([v], rest)
      else none

/-- The inside of a bracket: nothing, or items with commas between. -/
def enclosed {α : Type} (item : Read α) (close : Char) : Read (List α) := fun cs =>
  match skipBlanks cs with
  | [] => none
  | c :: rest => if c = close then some ([], rest) else separated item close cs.length cs

/-- A name with its value, which may be read in a way of its own. -/
def member {α : Type} (label : Read String) (value : String → Read α) : Read (String × α) :=
    fun cs => do
  let (name, rest) ← label (skipBlanks cs)
  match skipBlanks rest with
  | ':' :: rest =>
    let (v, rest) ← value name rest
    return ((name, v), rest)
  | _ => none

/-- A value without brackets. -/
def scalar : Read Json
  | 'n' :: 'u' :: 'l' :: 'l' :: rest => some (.null, rest)
  | 't' :: 'r' :: 'u' :: 'e' :: rest => some (.bool true, rest)
  | 'f' :: 'a' :: 'l' :: 's' :: 'e' :: rest => some (.bool false, rest)
  | '"' :: rest => (quotedString ('"' :: rest)).map fun (s, r) => (.string s, r)
  | cs => do
    let (l, rest) ← literal cs
    let n ← Number.ofLiteral l
    return (.number n, rest)

/-- A value whose brackets nest at most `depth` deep. -/
def value : Nat → Read Json
  | 0, cs => scalar (skipBlanks cs)
  | depth + 1, cs =>
    match skipBlanks cs with
    | '[' :: rest => (enclosed (value depth) ']' rest).map fun (items, r) => (.array items, r)
    | '\x7b' :: rest =>
      (enclosed (member quotedString fun _ => value depth) '\x7d' rest).map fun (members, r) =>
        (.object (Entries.ofPairs members), r)
    | cs => scalar cs

/-- How deep arrays and objects may nest. -/
def depthLimit : Nat := 127

/-- The value a text holds. -/
def parse (text : String) : Option Json :=
  match value depthLimit text.toList with
  | some (v, rest) => if (skipBlanks rest).isEmpty then some v else none
  | none => none

end EventRules.Json
