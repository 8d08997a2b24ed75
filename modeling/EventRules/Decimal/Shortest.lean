/-
The shortest decimal form of a floating-point number: the digits on the coarsest grid of powers of
ten that holds a number rounding back to it, and of those on that grid the nearest one. All
comparisons are exact, on integers scaled by a common power of two and ten.
-/
import EventRules.Binary.Basic
import EventRules.Decimal.Digits
namespace EventRules

/-! ## The interval of a number -/

/-- The reals that round to `significand · 2 ^ exponent`, in units of `2 ^ unit`: they reach from
`low` to `high`, ends included if `closed`, around `centre`. -/
structure RoundingInterval where
  low : Nat
  centre : Nat
  high : Nat
  unit : Int
  closed : Bool

/-- The gap below a number whose significand is the least one is half the gap above it. -/
def RoundingInterval.of (F : Format) (significand : Nat) (exponent : Int) : RoundingInterval :=
  let narrow := significand == 1 <<< (F.precision - 1) && F.minExp < exponent
  { low := 4 * significand - (if narrow then 1 else 2)
    centre := 4 * significand
    high := 4 * significand + 2
    unit := exponent - 2
    closed := significand % 2 == 0 }

namespace RoundingInterval

/-- The factors that bring `c · 10 ^ k` and `n · 2 ^ unit` to one scale. -/
def scales (I : RoundingInterval) (k : Int) : Nat × Nat :=
  (Nat.pow 10 k.toNat <<< (-I.unit).toNat, Nat.pow 10 (-k).toNat <<< I.unit.toNat)

/-- Whether `c · 10 ^ k` lies in the interval. -/
def holds (I : RoundingInterval) (k : Int) (c : Nat) : Bool :=
  let (ten, two) := I.scales k
  let x := c * ten
  let low := I.low * two
  let high := I.high * two
  if I.closed then low ≤ x && x ≤ high else low < x && x < high

/-- The multiple of `10 ^ k` in the interval that is nearest to its centre, an even one if two are
equally near. Only the two neighbours of the centre can be. -/
def onGrid (I : RoundingInterval) (k : Int) : Option (Nat × Int) :=
  let (ten, two) := I.scales k
  let below := I.centre * two / ten
  let rest := I.centre * two % ten
  match I.holds k below, I.holds k (below + 1) with
  | true, true =>
    let up := ten < 2 * rest || (ten == 2 * rest && below % 2 == 1)
    some (if up then below + 1 else below, k)
  | true, false => some (below, k)
  | false, true => some (below + 1, k)
  | false, false => none

end RoundingInterval

/-! ## The shortest form -/

namespace Decimal

/-- The exact decimal form of `significand · 2 ^ exponent`. -/
def exact (significand : Nat) (exponent : Int) : Nat × Int :=
  if 0 ≤ exponent then (significand <<< exponent.toNat, 0)
  else (significand * Nat.pow 5 (-exponent).toNat, exponent)

/-- `(digits, k)` with `digits · 10 ^ k` the shortest form of the positive number
`significand · 2 ^ exponent`. The search starts at a grid coarser than the number itself; the exact
form stands in where no grid of the first twenty fits, which no format of up to 53 bits needs. -/
def shortest (F : Format) (significand : Nat) (exponent : Int) : Nat × Int :=
  let I := RoundingInterval.of F significand exponent
  let top := (significand.log2 : Int) + exponent
  let start := (top * 30103).fdiv 100000 + 2
  let found := (List.range 20).findSome? fun (i : Nat) => I.onGrid (start - (i : Int))
  found.getD (exact significand exponent)

end Decimal

end EventRules
