/-
Binary floating-point numbers as exact data: a sign, a significand and an exponent, or one of the
two infinities, or not-a-number. A format says how many bits a significand has and how far its
exponent reaches; every inexact result goes through one function, `ofRatio`, which picks the number
of the format nearest to a quotient of naturals, a tie going to the even significand.
-/
namespace EventRules

/-! ## Formats and numbers -/

/-- A format: the bits of a significand, and the least and greatest exponent of its last bit. -/
structure Format where
  precision : Nat
  minExp : Int
  maxExp : Int
deriving DecidableEq

/-- Single precision: 24 bits, the last of weight `2 ^ -149` to `2 ^ 104`. -/
def Format.single : Format := ⟨24, -149, 104⟩

/-- Double precision: 53 bits, the last of weight `2 ^ -1074` to `2 ^ 971`. -/
def Format.double : Format := ⟨53, -1074, 971⟩

/-- A number of a format; a finite one stands for `± significand · 2 ^ exponent`. -/
inductive Binary (F : Format) where
  | nan
  | infinite (negative : Bool)
  | finite (negative : Bool) (significand : Nat) (exponent : Int)
deriving DecidableEq

abbrev Single := Binary .single
abbrev Double := Binary .double

/-! ## Rounding -/

/-- The natural number nearest to `num / den`; of two equally near ones the even one. -/
def nearestQuotient (num den : Nat) : Nat :=
  let q := num / den
  let r := num % den
  if 2 * r < den then q
  else if den < 2 * r then q + 1
  else if q % 2 = 0 then q
  else q + 1

/-- Whether `2 ^ t ≤ num / den`. -/
def reachesPower (t : Int) (num den : Nat) : Bool :=
  if 0 ≤ t then den <<< t.toNat ≤ num else den ≤ num <<< (-t).toNat

/-- The exponent of the leading bit of `num / den`, for positive `num` and `den`. -/
def leadingExponent (num den : Nat) : Int :=
  let t : Int := (num.log2 : Int) - (den.log2 : Int)
  if reachesPower t num den then t else t - 1

namespace Binary

variable {F : Format}

def zero (negative : Bool) : Binary F := .finite negative 0 F.minExp

/-- The number with a rounded significand: a carry into one bit more moves the exponent, and what
lies above the greatest exponent is infinite. -/
def ofSignificand (negative : Bool) (significand : Nat) (exponent : Int) : Binary F :=
  let carried := significand == 1 <<< F.precision
  let m := if carried then significand / 2 else significand
  let e := if carried then exponent + 1 else exponent
  if F.maxExp < e then .infinite negative else .finite negative m e

/-- The number nearest to `± num / den`, for positive `den`: its last bit has the weight that keeps
all significand bits, or the least weight of the format. -/
def ofRatio (negative : Bool) (num den : Nat) : Binary F :=
  if num = 0 then zero negative
  else
    let fitting := leadingExponent num den - ((F.precision : Int) - 1)
    let e := if fitting < F.minExp then F.minExp else fitting
    if 0 ≤ e then ofSignificand negative (nearestQuotient num (den <<< e.toNat)) e
    else ofSignificand negative (nearestQuotient (num <<< (-e).toNat) den) e

/-- The number nearest to `± significand · 2 ^ exponent`. -/
def ofScaled (negative : Bool) (significand : Nat) (exponent : Int) : Binary F :=
  if 0 ≤ exponent then ofRatio negative (significand <<< exponent.toNat) 1
  else ofRatio negative significand (1 <<< (-exponent).toNat)

/-- The number nearest to an integer. -/
def ofInt (n : Int) : Binary F := ofRatio (n < 0) n.natAbs 1

def one : Binary F := ofInt 1

/-- The same number in another format, rounded if need be. -/
def convert {G : Format} : Binary F → Binary G
  | .nan => .nan
  | .infinite negative => .infinite negative
  | .finite negative m e => ofScaled negative m e

def isFinite : Binary F → Bool
  | .finite .. => true
  | _ => false

def isInfinite : Binary F → Bool
  | .infinite _ => true
  | _ => false

/-! ## Interchange encoding -/

/-- The field that holds the exponent: zero for a significand without its leading bit. -/
def exponentField (F : Format) (significand : Nat) (exponent : Int) : Nat :=
  if significand < 1 <<< (F.precision - 1) then 0 else (exponent - F.minExp).toNat + 1

/-- The exponent field of the infinities and of not-a-number. -/
def specialField (F : Format) : Nat := (F.maxExp - F.minExp).toNat + 2

/-- The fields put side by side, the sign as the highest bit. -/
def packed (F : Format) (negative : Bool) (field fraction : Nat) : Nat :=
  let sign := if negative then specialField F + 1 else 0
  (sign + field) <<< (F.precision - 1) + fraction

/-- The standard bit layout: sign, exponent field, fraction. Not-a-number has one, without sign and
with the highest fraction bit alone. -/
def toBits : Binary F → Nat
  | .nan => packed F false (specialField F) (1 <<< (F.precision - 2))
  | .infinite negative => packed F negative (specialField F) 0
  | .finite negative m e =>
    packed F negative (exponentField F m e) (m % (1 <<< (F.precision - 1)))

end Binary

end EventRules
