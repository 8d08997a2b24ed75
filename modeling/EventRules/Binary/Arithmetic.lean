/-
Arithmetic on binary floating-point numbers. Every operation computes the exact result and rounds
it once, with `ofRatio`; comparison is exact, and no comparison holds of not-a-number. The last
section reads numbers as fixed-width integers: what lies outside the range goes to the nearer end of
it, and not-a-number to zero.
-/
import EventRules.Binary.Basic
namespace EventRules.Binary

variable {F : Format}

/-! ## Signed significands -/

/-- `± significand`, as an integer. -/
def signed (negative : Bool) (significand : Nat) : Int :=
  if negative then -(significand : Int) else significand

/-- Two finite numbers over the smaller of their exponents. -/
def aligned (m₁ : Int) (e₁ : Int) (m₂ : Int) (e₂ : Int) : Int × Int × Int :=
  if e₁ ≤ e₂ then (m₁, m₂ * ((1 <<< (e₂ - e₁).toNat : Nat) : Int), e₁)
  else (m₁ * ((1 <<< (e₁ - e₂).toNat : Nat) : Int), m₂, e₂)

/-! ## Operations -/

def neg : Binary F → Binary F
  | .nan => .nan
  | .infinite negative => .infinite (!negative)
  | .finite negative m e => .finite (!negative) m e

/-- The sum; a sum that is exactly zero is negative only if both terms are. -/
def add : Binary F → Binary F → Binary F
  | .nan, _ => .nan
  | _, .nan => .nan
  | .infinite n₁, .infinite n₂ => if n₁ = n₂ then .infinite n₁ else .nan
  | .infinite n₁, .finite .. => .infinite n₁
  | .finite .., .infinite n₂ => .infinite n₂
  | .finite n₁ m₁ e₁, .finite n₂ m₂ e₂ =>
    let (a, b, e) := aligned (signed n₁ m₁) e₁ (signed n₂ m₂) e₂
    if a + b = 0 then zero (n₁ && n₂)
    else ofScaled (a + b < 0) (a + b).natAbs e

def sub (x y : Binary F) : Binary F := add x (neg y)

def mul : Binary F → Binary F → Binary F
  | .nan, _ => .nan
  | _, .nan => .nan
  | .infinite n₁, .infinite n₂ => .infinite (n₁ != n₂)
  | .infinite n₁, .finite n₂ m₂ _ => if m₂ = 0 then .nan else .infinite (n₁ != n₂)
  | .finite n₁ m₁ _, .infinite n₂ => if m₁ = 0 then .nan else .infinite (n₁ != n₂)
  | .finite n₁ m₁ e₁, .finite n₂ m₂ e₂ => ofScaled (n₁ != n₂) (m₁ * m₂) (e₁ + e₂)

def div : Binary F → Binary F → Binary F
  | .nan, _ => .nan
  | _, .nan => .nan
  | .infinite _, .infinite _ => .nan
  | .infinite n₁, .finite n₂ _ _ => .infinite (n₁ != n₂)
  | .finite n₁ _ _, .infinite n₂ => zero (n₁ != n₂)
  | .finite n₁ m₁ e₁, .finite n₂ m₂ e₂ =>
    if m₂ = 0 then (if m₁ = 0 then .nan else .infinite (n₁ != n₂))
    else if e₁ ≤ e₂ then ofRatio (n₁ != n₂) m₁ (m₂ <<< (e₂ - e₁).toNat)
    else ofRatio (n₁ != n₂) (m₁ <<< (e₁ - e₂).toNat) m₂

instance : Neg (Binary F) := ⟨neg⟩
instance : Add (Binary F) := ⟨add⟩
instance : Sub (Binary F) := ⟨sub⟩
instance : Mul (Binary F) := ⟨mul⟩
instance : Div (Binary F) := ⟨div⟩

/-! ## Comparison -/

/-- How two numbers compare, `none` if either is not-a-number; the two zeros are equal. -/
def order? : Binary F → Binary F → Option Ordering
  | .nan, _ => none
  | _, .nan => none
  | .infinite n₁, .infinite n₂ =>
    some (if n₁ = n₂ then .eq else if n₁ then .lt else .gt)
  | .infinite n₁, .finite .. => some (if n₁ then .lt else .gt)
  | .finite .., .infinite n₂ => some (if n₂ then .gt else .lt)
  | .finite n₁ m₁ e₁, .finite n₂ m₂ e₂ =>
    let (a, b, _) := aligned (signed n₁ m₁) e₁ (signed n₂ m₂) e₂
    some (if a < b then .lt else if a = b then .eq else .gt)

def lt (x y : Binary F) : Bool := order? x y == some .lt

def le (x y : Binary F) : Bool := order? x y == some .lt || order? x y == some .eq

/-- Numeric equality: not-a-number equals nothing, and the two zeros equal each other. -/
def same (x y : Binary F) : Bool := order? x y == some .eq

/-! ## Reading as an integer -/

/-- The integer part of a finite number, rounded toward zero. -/
def truncated (negative : Bool) (m : Nat) (e : Int) : Int :=
  signed negative (if 0 ≤ e then m <<< e.toNat else m >>> (-e).toNat)

/-- The greatest integer not above a finite number. -/
def floored (negative : Bool) (m : Nat) (e : Int) : Int :=
  if 0 ≤ e then signed negative (m <<< e.toNat)
  else (signed negative m).fdiv ((1 <<< (-e).toNat : Nat) : Int)

/-- The integer of `low` to `high` nearest to `n`. -/
def clamp (low high n : Int) : Int :=
  if n < low then low else if high < n then high else n

/-- A number read as an integer between `low` and `high`, a finite one by way of `read`. -/
def saturate (low high : Int) (read : Bool → Nat → Int → Int) : Binary F → Int
  | .nan => 0
  | .infinite negative => if negative then low else high
  | .finite negative m e => clamp low high (read negative m e)

/-- Rounded toward zero into 32 bits. -/
def toInt32 (x : Binary F) : Int32 :=
  Int32.ofInt (saturate (-2147483648) 2147483647 truncated x)

/-- Rounded down into 32 bits. -/
def floorInt32 (x : Binary F) : Int32 :=
  Int32.ofInt (saturate (-2147483648) 2147483647 floored x)

/-- Rounded toward zero into 64 bits. -/
def toInt64 (x : Binary F) : Int64 :=
  Int64.ofInt (saturate (-9223372036854775808) 9223372036854775807 truncated x)

end EventRules.Binary
