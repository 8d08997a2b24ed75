/-
The numbers in a JSON text. Every literal that is read stands for a number: what its digits are
multiplied with or divided by is a power of ten that is neither zero nor infinite. So not-a-number
is nowhere in a value that is read from a text, however deep one looks.
-/
import EventRules.Json.Reader
import EventRules.Proofs.Binary.Number
import EventRules.Proofs.Dict
import Mathlib.Tactic.GCongr

namespace EventRules

/-! ## Literals -/

namespace Number

/-- A number of JSON that is one. -/
def Proper (n : Number) : Prop := n ≠ .float .nan

/-- The powers of ten that are multiplied with are finite, and not zero. -/
theorem nonZero_power10 {k : Nat} (reached : k ≤ 308) : Binary.NonZero (power10 k) := by
  have greatest : 10 ^ 308 ≤
      1 * ((2 ^ Format.double.precision - 1) * 2 ^ Format.double.maxExp.toNat) := by decide +kernel
  have high : 10 ^ k ≤ 10 ^ 308 := by gcongr; decide
  have exact : power10 k = Binary.ofRatio false (10 ^ k) 1 := by
    have one : (Decimal.ofNat 1).length = 1 := by decide
    have outside : ¬ Format.double.maxExp + Format.double.precision <
        (1 : Nat) + (k : Int) - 1 := by
      show ¬ ((971 : Int) + (53 : Nat) < _)
      omega
    have inside : ¬ (1 : Nat) + (k : Int) < Format.double.minExp := by
      show ¬ (_ < (-1074 : Int))
      omega
    unfold power10 Binary.ofDecimal
    rw [if_neg (by decide)]
    dsimp only
    rw [one, if_neg outside, if_neg inside, if_pos (by omega), Nat.one_mul, Int.toNat_natCast]
    rfl
  rw [exact]
  exact Binary.nonZero_ofRatio (by decide) (by decide) (by decide) (by decide)
    (Nat.one_le_pow _ _ (by decide)) (high.trans greatest)

theorem scaled_ne_nan {negative : Bool} {significand : Nat} {exponent : Int} {x : Double}
    (h : scaled negative significand exponent = some x) : x ≠ .nan := by
  have reach : tableReach = 308 := rfl
  unfold scaled at h
  extract_lets start signed at h
  have start_ne : start ≠ .nan := Binary.ofRatio_ne_nan _ _ _
  have signed_ne {y : Double} (hy : y ≠ .nan) : signed y ≠ .nan := by
    show (if negative then -y else y) ≠ .nan
    split
    · exact Binary.neg_ne_nan hy
    · exact hy
  split at h
  · split at h
    · split at h
      · cases h
        exact signed_ne start_ne
      · cases h
    · split at h
      · cases h
      · cases h
        exact signed_ne (Binary.mul_ne_nan start_ne (nonZero_power10 (by omega)))
  · split at h
    · cases h
      exact signed_ne (Binary.div_ne_nan start_ne (nonZero_power10 (by omega)))
    · have first := Binary.div_ne_nan start_ne (nonZero_power10 (Nat.le_refl 308))
      split at h
      · cases h
        exact signed_ne (Binary.div_ne_nan first (nonZero_power10 (by omega)))
      · cases h
        exact signed_ne nofun

theorem proper_ofLiteral {l : Literal} {n : Number} (h : ofLiteral l = some n) : n.Proper := by
  have float {x : Double} (hx : x ≠ .nan) : (Number.float x).Proper := fun same =>
    hx (Number.float.inj same)
  have zero (negative : Bool) : (Number.float (.zero negative)).Proper := float nofun
  have of_scaled {negative : Bool} {m : Nat} {e : Int}
      (h : (scaled negative m e).map .float = some n) : n.Proper := by
    obtain ⟨x, read, rfl⟩ := Option.map_eq_some_iff.1 h
    exact float (scaled_ne_nan read)
  unfold ofLiteral at h
  dsimp only at h
  split at h
  · split at h
    · exact of_scaled h
    · split at h
      · cases h
        nofun
      · split at h
        · cases h
          exact float (Binary.neg_ne_nan (Binary.ofRatio_ne_nan _ _ _))
        · cases h
          nofun
  · split at h
    · split at h
      · cases h
        exact zero _
      · cases h
    · split at h
      · cases h
        exact zero _
      · exact of_scaled h

end Number

/-! ## Values -/

namespace Json

mutual

/-- Every number in the value satisfies `P`. -/
def Every (P : Number → Prop) : Json → Prop
  | .null => True
  | .bool _ => True
  | .number n => P n
  | .string _ => True
  | .array items => EveryItem P items
  | .object members => EveryMember P members
termination_by structural v => v

def EveryItem (P : Number → Prop) : List Json → Prop
  | [] => True
  | v :: rest => v.Every P ∧ EveryItem P rest
termination_by structural vs => vs

def EveryMember (P : Number → Prop) : List (String × Json) → Prop
  | [] => True
  | (_, v) :: rest => v.Every P ∧ EveryMember P rest
termination_by structural ms => ms

end

variable {P : Number → Prop}

theorem everyItem_iff {items : List Json} : EveryItem P items ↔ ∀ v ∈ items, v.Every P := by
  induction items with
  | nil => exact iff_of_true trivial (List.forall_mem_nil _)
  | cons v rest ih => rw [EveryItem, ih, List.forall_mem_cons]

theorem everyMember_iff {members : List (String × Json)} :
    EveryMember P members ↔ ∀ m ∈ members, m.2.Every P := by
  induction members with
  | nil => exact iff_of_true trivial (List.forall_mem_nil _)
  | cons m rest ih => rw [EveryMember, ih, List.forall_mem_cons]

/-! ## Reading -/

variable {α β : Type} {Q : α → Prop}

/-- Whatever is read satisfies `Q`. -/
def Yields (read : Read α) (Q : α → Prop) : Prop := ∀ cs a rest, read cs = some (a, rest) → Q a

theorem yields_separated {item : Read α} (h : Yields item Q) (close : Char) :
    ∀ fuel, Yields (separated item close fuel) fun vs => ∀ v ∈ vs, Q v
  | 0, _, _, _, read => by cases read
  | fuel + 1, cs, vs, rest, read => by
    obtain ⟨⟨v, behind⟩, first, read⟩ := Option.bind_eq_some_iff.1 read
    have head : Q v := h cs v behind first
    dsimp only at read
    split at read
    · cases read
    · split at read
      · obtain ⟨⟨more, last⟩, others, read⟩ := Option.bind_eq_some_iff.1 read
        cases read
        exact List.forall_mem_cons.2 ⟨head, yields_separated h close fuel _ _ _ others⟩
      · split at read
        · cases read
          exact List.forall_mem_singleton.2 head
        · cases read

theorem yields_enclosed {item : Read α} (h : Yields item Q) (close : Char) :
    Yields (enclosed item close) fun vs => ∀ v ∈ vs, Q v := by
  intro cs vs rest read
  unfold enclosed at read
  split at read
  · cases read
  · split at read
    · cases read
      exact List.forall_mem_nil _
    · exact yields_separated h close _ _ _ _ read

theorem yields_member {label : Read String} {value : String → Read α}
    (h : ∀ name, Yields (value name) Q) : Yields (member label value) fun m => Q m.2 := by
  intro cs m rest read
  obtain ⟨⟨name, behind⟩, -, read⟩ := Option.bind_eq_some_iff.1 read
  dsimp only at read
  split at read
  · obtain ⟨⟨v, last⟩, valued, read⟩ := Option.bind_eq_some_iff.1 read
    cases read
    exact h name _ v last valued
  · cases read

theorem yields_scalar (h : ∀ l n, Number.ofLiteral l = some n → P n) : Yields scalar (Every P) := by
  intro cs v rest read
  unfold scalar at read
  split at read
  · cases read
    trivial
  · cases read
    trivial
  · cases read
    trivial
  · obtain ⟨_, -, made⟩ := Option.map_eq_some_iff.1 read
    cases made
    trivial
  · obtain ⟨⟨l, behind⟩, -, read⟩ := Option.bind_eq_some_iff.1 read
    obtain ⟨n, number, read⟩ := Option.bind_eq_some_iff.1 read
    cases read
    exact h l n number

/-- What holds of every number a literal stands for holds of every number in a value that is read;
the induction is on how deep the value may nest. -/
theorem yields_value (h : ∀ l n, Number.ofLiteral l = some n → P n) :
    ∀ depth, Yields (value depth) (Every P)
  | 0, _, _, _, read => yields_scalar h _ _ _ read
  | depth + 1, cs, v, rest, read => by
    unfold value at read
    split at read
    · obtain ⟨⟨items, _⟩, enclosed, made⟩ := Option.map_eq_some_iff.1 read
      cases made
      exact everyItem_iff.2 (yields_enclosed (yields_value h depth) _ _ _ _ enclosed)
    · obtain ⟨⟨members, _⟩, enclosed, made⟩ := Option.map_eq_some_iff.1 read
      cases made
      refine everyMember_iff.2 fun m there => ?_
      exact yields_enclosed (yields_member fun _ => yields_value h depth) _ _ _ _ enclosed m
        (Entries.mem_of_mem_ofPairs there)
    · exact yields_scalar h _ _ _ read

theorem every_proper_of_parse {text : String} {v : Json} (h : parse text = some v) :
    v.Every Number.Proper := by
  unfold parse at h
  split at h
  · rename_i read
    split at h
    · cases h
      exact yields_value (fun _ _ => Number.proper_ofLiteral) _ _ _ _ read
    · cases h
  · cases h

end Json

end EventRules
