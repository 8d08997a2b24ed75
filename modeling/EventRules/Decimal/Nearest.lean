/-
The floating-point number nearest to a decimal one, and the lenient text form of floating-point
numbers: an optional sign, then digits with at most one point among or beside them and an optional
exponent, or `inf`, `infinity` or `nan` in any mixture of cases.
-/
import EventRules.Binary.Basic
import EventRules.Decimal.Digits
namespace EventRules

/-- The number nearest to `± significand · 10 ^ exponent`. Beyond the format's reach no power is
formed: a decimal power of positive size exceeds the binary one, of negative size stays below it. -/
def Binary.ofDecimal {F : Format} (negative : Bool) (significand : Nat) (exponent : Int) :
    Binary F :=
  if significand = 0 then .zero negative
  else
    let magnitude := ((Decimal.ofNat significand).length : Int) + exponent
    if F.maxExp + F.precision < magnitude - 1 then .infinite negative
    else if magnitude < F.minExp then .zero negative
    else if 0 ≤ exponent then .ofRatio negative (significand * Nat.pow 10 exponent.toNat) 1
    else .ofRatio negative significand (Nat.pow 10 (-exponent).toNat)

namespace Decimal

variable {F : Format}

/-- An exponent mark with its digits, or nothing. -/
def readExponent : List Char → Option Int
  | [] => some 0
  | mark :: rest => if mark = 'e' ∨ mark = 'E' then readInt rest else none

/-- Digits with an optional point and exponent, without sign. -/
def readUnsigned (negative : Bool) (cs : List Char) : Option (Binary F) :=
  let (whole, rest) := span cs
  let (fraction, rest) := match rest with
    | '.' :: r => span r
    | r => ([], r)
  if whole.isEmpty && fraction.isEmpty then none
  else do
    let exponent ← readExponent rest
    return .ofDecimal negative (value (whole ++ fraction)) (exponent - (fraction.length : Int))

/-- The lenient text form of a floating-point number. -/
def readBinary (cs : List Char) : Option (Binary F) :=
  let (negative, rest) := sign cs
  let word := String.ofList (rest.map Char.toLower)
  if word = "nan" then some .nan
  else if word = "inf" ∨ word = "infinity" then some (.infinite negative)
  else readUnsigned negative rest

end Decimal

end EventRules
