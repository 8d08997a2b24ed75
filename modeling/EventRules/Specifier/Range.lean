/-
Range expressions: a condition on a 64-bit integer such as `>=5`, `3-7` or a bare number, its
meaning, its written form and its grammar.
-/
import EventRules.Specifier.Scan
namespace EventRules

/-- A condition on an integer. -/
inductive RangeExpr where
  | atLeast (n : Int64)
  | above (n : Int64)
  | atMost (n : Int64)
  | below (n : Int64)
  | equal (n : Int64)
  | notEqual (n : Int64)
  | between (low high : Int64)
deriving DecidableEq

namespace RangeExpr

/-- Whether an integer satisfies the expression; `between` includes both ends. -/
def test : RangeExpr → Int64 → Bool
  | .atLeast n, v => n ≤ v
  | .above n, v => n < v
  | .atMost n, v => v ≤ n
  | .below n, v => v < n
  | .equal n, v => v = n
  | .notEqual n, v => v ≠ n
  | .between low high, v => low ≤ v && v ≤ high

/-! ## Written form -/

def text (e : RangeExpr) : String :=
  let number (n : Int64) : String := Decimal.text n.toInt
  match e with
  | .atLeast n => ">=" ++ number n
  | .above n => ">" ++ number n
  | .atMost n => "<=" ++ number n
  | .below n => "<" ++ number n
  | .equal n => "=" ++ number n
  | .notEqual n => "!=" ++ number n
  | .between low high => number low ++ "-" ++ number high

/-! ## Grammar -/

open Specifier

def number : Scan Int64 := integer Decimal.int64?

/-- A number behind an operator. -/
def operator (symbol : List Char) (make : Int64 → RangeExpr) : Scan RangeExpr := fun cs => do
  let (_, rest) ← word symbol cs
  let (n, rest) ← number rest
  return (make n, rest)

/-- Two numbers with a dash between. -/
def dashed : Scan RangeExpr := fun cs => do
  let (low, rest) ← number cs
  let (_, rest) ← mark '-' rest
  let (high, rest) ← number rest
  return (.between low high, rest)

/-- The alternatives in the order they are tried; the first that succeeds is taken. -/
def alternatives : List (Scan RangeExpr) :=
  [operator ['>', '='] .atLeast, operator ['>'] .above, operator ['<', '='] .atMost,
    operator ['!', '='] .notEqual, operator ['<', '>'] .notEqual, operator ['<'] .below,
    operator ['='] .equal, dashed, operator [] .equal]

/-- Reads a range expression. -/
def parse : String → Except SpecifierError RangeExpr := whole .range (firstOf alternatives)

end RangeExpr

end EventRules
