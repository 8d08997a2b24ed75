/-
Upper and lower case of texts over all of Unicode, independent of language: a mapping per character,
one character may become several, and a capital sigma at the end of a word becomes a final one.
-/
import EventRules.Text.CaseTable
namespace EventRules.Text

/-! ## Tables -/

/-- Whether a character lies in one of the ranges. -/
def inRanges (ranges : List (Nat × Nat)) (c : Char) : Bool :=
  ranges.any fun (first, last) => first ≤ c.toNat && c.toNat ≤ last

/-- The character a run table sends `c` to, itself if no run holds it. -/
def moveBy (runs : List (Nat × Nat × Nat × Int)) (c : Char) : Char :=
  let n := c.toNat
  match runs.find? fun (first, last, step, _) =>
      first ≤ n && n ≤ last && (n - first) % step == 0 with
  | some (_, _, _, distance) => Char.ofNat ((n : Int) + distance).toNat
  | none => c

/-! ## Lower case -/

/-- The lower case of a character on its own; the dotted capital I keeps its dot as a mark. -/
def lowerChar (c : Char) : List Char :=
  if c.toNat < 128 then [c.toLower]
  else if c = 'İ' then ['i', '\u0307']
  else [moveBy lowerRuns c]

/-- Whether the first character that is not looked through is a letter with case. -/
def meetsCased (cs : List Char) : Bool :=
  match cs.dropWhile (inRanges caseIgnorableRanges) with
  | [] => false
  | c :: _ => inRanges casedRanges c

/-- The lower case of a text whose reversed beginning is `before`. A capital sigma is final if a
letter stands before it and none after it. -/
def lowerFrom (before : List Char) : List Char → List Char
  | [] => []
  | c :: rest =>
    let here :=
      if c = 'Σ' then [if meetsCased before && !meetsCased rest then 'ς' else 'σ']
      else lowerChar c
    here ++ lowerFrom (c :: before) rest

def lower (s : String) : String := String.ofList (lowerFrom [] s.toList)

/-! ## Upper case -/

def upperChar (c : Char) : List Char :=
  if c.toNat < 128 then [c.toUpper]
  else
    match upperExpansions.find? fun e => e.1 == c.toNat with
    | some (_, capitals) => capitals.map Char.ofNat
    | none => [moveBy upperRuns c]

def upper (s : String) : String := String.ofList (s.toList.flatMap upperChar)

/-! ## Letters of ASCII only -/

/-- Lower case of the ASCII letters; all else stays. -/
def lowerAscii (s : String) : String := String.ofList (s.toList.map Char.toLower)

end EventRules.Text
