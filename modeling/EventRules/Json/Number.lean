/-
Number literals of JSON. An integer literal that fits 64 bits is that integer; every other literal,
minus zero among them, is a double. A double is made from the literal's leading digits, as many as
fit 64 bits: they are rounded to a double, which is multiplied or divided by the double nearest to a
power of ten, so a long literal can miss the nearest double by a unit in the last place. A double is
written in its shortest form, positional for exponents from -5 to 15.
-/
import EventRules.Json.Basic
import EventRules.Decimal.Nearest
import EventRules.Decimal.Shortest
namespace EventRules

/-- A number literal taken apart; the digits after the point and the exponent are optional. -/
structure Literal where
  negative : Bool
  whole : List Char
  fraction : Option (List Char)
  exponent : Option Int

namespace Number

/-! ## The value of a literal -/

/-- The first integer beyond 64 bits. -/
def wordLimit : Nat := 18446744073709551616

/-- Appends digits to a significand while it fits 64 bits; also says how many were taken. -/
def absorb (significand : Nat) : List Char → Nat × Nat
  | [] => (significand, 0)
  | c :: rest =>
    let longer := 10 * significand + Decimal.value [c]
    if wordLimit ≤ longer then (significand, 0)
    else
      let (m, taken) := absorb longer rest
      (m, taken + 1)

/-- The greatest power of ten that divides or multiplies in one step. -/
def tableReach : Int := 308

def power10 (k : Nat) : Double := .ofDecimal false 1 k

/-- `significand · 10 ^ exponent` in double precision, `none` beyond its range. Far below it takes
two divisions; a third would find nothing left. -/
def scaled (negative : Bool) (significand : Nat) (exponent : Int) : Option Double :=
  let start : Double := .ofInt significand
  let signed (x : Double) : Double := if negative then -x else x
  if 0 ≤ exponent then
    if tableReach < exponent then
      if significand = 0 then some (signed start) else none
    else
      let x := start * power10 exponent.toNat
      if x.isInfinite then none else some (signed x)
  else if -tableReach ≤ exponent then some (signed (start / power10 (-exponent).toNat))
  else
    let x := start / power10 308
    let rest := exponent + tableReach
    if -tableReach ≤ rest then some (signed (x / power10 (-rest).toNat))
    else some (signed (.zero false))

/-- The greatest exponent that is read as one. -/
def exponentLimit : Int := 2147483647

/-- The number of a literal, `none` if it is too large for a double. -/
def ofLiteral (l : Literal) : Option Number :=
  let (m, taken) := absorb 0 l.whole
  let dropped : Int := (l.whole.length : Int) - (taken : Int)
  match l.fraction, l.exponent with
  | none, none =>
    if dropped ≠ 0 then (scaled l.negative m dropped).map .float
    else if !l.negative then some (.integer m)
    else if m = 0 ∨ 9223372036854775808 < m then some (.float (-(.ofInt m)))
    else some (.integer (-(m : Int)))
  | fraction, exponent =>
    let (m, taken) := absorb m (fraction.getD [])
    let shift := dropped - (taken : Int)
    let exponent := exponent.getD 0
    if exponentLimit < exponent then
      if m = 0 then some (.float (.zero l.negative)) else none
    else if exponent < -exponentLimit then some (.float (.zero l.negative))
    else (scaled l.negative m (shift + exponent)).map .float

/-! ## Writing -/

/-- The exponents, of the first digit, that are written positionally. -/
def positional (exponent : Int) : Bool := -5 ≤ exponent && exponent ≤ 15

/-- The digits of `digits · 10 ^ k` with a point, or with an exponent if the number is far from
one. -/
def layout (digits : List Char) (k : Int) : List Char :=
  let point : Int := (digits.length : Int) + k
  if positional (point - 1) then
    if 0 ≤ k then digits ++ List.replicate k.toNat '0' ++ ['.', '0']
    else if 0 < point then digits.take point.toNat ++ '.' :: digits.drop point.toNat
    else ['0', '.'] ++ List.replicate (-point).toNat '0' ++ digits
  else
    let mantissa := match digits with
      | d :: e :: rest => d :: '.' :: e :: rest
      | ds => ds
    let sign := if point - 1 < 0 then '-' else '+'
    mantissa ++ 'e' :: sign :: Decimal.ofNat (point - 1).natAbs

/-- A double as a literal; the infinities and not-a-number have none and become `null`. -/
def doubleChars : Double → List Char
  | .nan => ['n', 'u', 'l', 'l']
  | .infinite _ => ['n', 'u', 'l', 'l']
  | .finite negative m e =>
    let body :=
      if m = 0 then ['0', '.', '0']
      else
        let (digits, k) := Decimal.shortest .double m e
        layout (Decimal.ofNat digits) k
    if negative then '-' :: body else body

/-- A number as a literal. -/
def chars : Number → List Char
  | .integer n => Decimal.ofInt n
  | .float x => doubleChars x

end Number

end EventRules
