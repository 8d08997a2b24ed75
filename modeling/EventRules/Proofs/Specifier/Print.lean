/-
Range expressions in their written form: what is written is read back as the expression it was
written from. A printed number is a numeral without blanks. So nothing is trimmed off a printed
expression, and between two numbers the first ends where the dash stands, since no numeral goes on
with a dash; whether a dash is a sign follows from where it stands, whatever the signs of the two.
-/
import EventRules.Proofs.Specifier.Range

namespace EventRules

/-! ## Printed numbers -/

namespace Decimal

/-- A positive number does not begin with the digit zero. -/
theorem exists_cons_of_pos {n : Nat} (pos : 0 < n) : ∃ d ds, ofNat n = d :: ds ∧ d ≠ '0' := by
  induction n using Nat.strongRecOn with
  | ind n ih =>
    rw [ofNat, Nat.toDigits_eq_if (by omega)]
    split
    · rename_i small
      have nonzero : ∀ k, k < 10 → 0 < k → k.digitChar ≠ '0' := by decide
      exact ⟨n.digitChar, [], rfl, nonzero n small pos⟩
    · rename_i large
      obtain ⟨d, ds, digits, nonzero⟩ := ih (n / 10) (by omega) (by omega)
      rw [ofNat] at digits
      exact ⟨d, ds ++ [(n % 10).digitChar], by rw [digits, List.cons_append], nonzero⟩

theorem isDigit_of_mem_ofNat {n : Nat} {c : Char} (h : c ∈ ofNat n) : c.isDigit = true :=
  Nat.isDigit_of_mem_toDigits (by omega) (by omega) h

theorem value_ofNat (n : Nat) : value (ofNat n) = n := Nat.ofDigitChars_ten_toDigits

end Decimal

namespace Specifier

theorem numeral_ofNat {n : Nat} (pos : 0 < n) {sign : List Char} {negative : Bool}
    (signed : Sign sign negative) :
    Numeral (sign ++ Decimal.ofNat n) (if negative then -(n : Int) else n) := by
  obtain ⟨d, ds, digits, nonzero⟩ := Decimal.exists_cons_of_pos pos
  have all : ∀ c ∈ d :: ds, c.isDigit = true := by
    rw [← digits]
    intro c hc
    exact Decimal.isDigit_of_mem_ofNat hc
  obtain ⟨digit, others⟩ := List.forall_mem_cons.1 all
  have numeral := Numeral.signed signed digit nonzero others
  rwa [← digits, Decimal.value_ofNat] at numeral

/-- An integer is printed as the numeral that stands for it. -/
theorem numeral_ofInt (n : Int) : Numeral (Decimal.ofInt n) n := by
  unfold Decimal.ofInt
  rcases Int.lt_trichotomy n 0 with negative | rfl | positive
  · rw [if_pos negative]
    have numeral := numeral_ofNat (n := n.natAbs) (by omega) .minus
    have same : -(n.natAbs : Int) = n := by omega
    rwa [if_pos rfl, same] at numeral
  · exact .zero
  · rw [if_neg (by omega)]
    have numeral := numeral_ofNat (n := n.natAbs) (by omega) .none
    have same : (n.natAbs : Int) = n := by omega
    rwa [if_neg (by decide), same] at numeral

theorem padded_ofInt (n : Int) : Padded (Decimal.ofInt n) n := by
  have padded : Padded ([] ++ (Decimal.ofInt n ++ [])) n :=
    .mk (List.forall_mem_nil _) (numeral_ofInt n) (List.forall_mem_nil _)
  rwa [List.nil_append, List.append_nil] at padded

end Specifier

/-! ## Texts without blanks -/

namespace Text

theorem isBlank_of_isDigit {c : Char} (digit : c.isDigit = true) : isBlank c = false := by
  obtain ⟨low, high⟩ : 48 ≤ c.toNat ∧ c.toNat ≤ 57 := by
    simpa [Char.isDigit, UInt32.le_iff_toNat_le] using digit
  simp [isBlank]
  omega

/-- From a text without blanks nothing is trimmed off. -/
theorem trim_of_solid {cs : List Char} (solid : ∀ c ∈ cs, isBlank c = false) : trim cs = cs :=
  trim_of_bare (bare_of_solid solid)

end Text

theorem Decimal.solid_ofInt (n : Int) : ∀ c ∈ ofInt n, Text.isBlank c = false := by
  have digits : ∀ c ∈ ofNat n.natAbs, Text.isBlank c = false :=
    fun c hc => Text.isBlank_of_isDigit (isDigit_of_mem_ofNat hc)
  unfold ofInt
  split
  · exact List.forall_mem_cons.2 ⟨rfl, digits⟩
  · exact digits

/-! ## Printed expressions -/

namespace RangeExpr

/-- An operator and its number are printed, or two numbers with a dash between. -/
theorem printed_cases (e : RangeExpr) :
    (∃ o ∈ operators, ∃ n : Int64, e = o.2 n ∧ e.text.toList = o.1 ++ Decimal.ofInt n.toInt) ∨
    ∃ low high : Int64, e = .between low high ∧
      e.text.toList = Decimal.ofInt low.toInt ++ '-' :: Decimal.ofInt high.toInt := by
  cases e with
  | atLeast n =>
    exact .inl ⟨(['>', '='], .atLeast), by simp [operators], n, rfl, by simp [text, Decimal.text]⟩
  | above n =>
    exact .inl ⟨(['>'], .above), by simp [operators], n, rfl, by simp [text, Decimal.text]⟩
  | atMost n =>
    exact .inl ⟨(['<', '='], .atMost), by simp [operators], n, rfl, by simp [text, Decimal.text]⟩
  | below n =>
    exact .inl ⟨(['<'], .below), by simp [operators], n, rfl, by simp [text, Decimal.text]⟩
  | equal n =>
    exact .inl ⟨(['='], .equal), by simp [operators], n, rfl, by simp [text, Decimal.text]⟩
  | notEqual n =>
    exact .inl ⟨(['!', '='], .notEqual), by simp [operators], n, rfl, by simp [text, Decimal.text]⟩
  | between low high => exact .inr ⟨low, high, rfl, by simp [text, Decimal.text]⟩

/-- The printed form is one that the grammar has for the expression. -/
theorem written_text (e : RangeExpr) : Written e.text.toList e := by
  rcases printed_cases e with ⟨o, ho, n, made, printed⟩ | ⟨low, high, made, printed⟩
  · rw [printed, made]
    exact written_of_operator o ho (Specifier.padded_ofInt n.toInt)
  · rw [printed, made]
    exact .between (Specifier.padded_ofInt low.toInt) (Specifier.padded_ofInt high.toInt)

theorem solid_text (e : RangeExpr) : ∀ c ∈ e.text.toList, Text.isBlank c = false := by
  rcases printed_cases e with ⟨o, ho, n, -, printed⟩ | ⟨low, high, -, printed⟩
  · have symbols : ∀ symbol ∈ operators.map Prod.fst, ∀ c ∈ symbol, Text.isBlank c = false := by
      simp [operators, Text.isBlank]
    rw [printed, List.forall_mem_append]
    exact ⟨symbols o.1 (List.mem_map_of_mem ho), Decimal.solid_ofInt n.toInt⟩
  · rw [printed, List.forall_mem_append, List.forall_mem_cons]
    exact ⟨Decimal.solid_ofInt low.toInt, rfl, Decimal.solid_ofInt high.toInt⟩

/-- What is printed of an expression is read as this expression, and so accepts the same
integers. -/
theorem parse_printed (e : RangeExpr) :
    parse e.text = .ok e ∧
      ∀ v, (parse e.text).map (fun read => read.test v) = .ok (e.test v) := by
  have read : parse e.text = .ok e := by
    rw [parse_eq_ok_iff, Text.trim_of_solid (solid_text e)]
    exact written_text e
  refine ⟨read, fun v => ?_⟩
  rw [read]
  rfl

/-- The first dash and the last are signs. -/
example : parse "-3--5" = .ok (.between (-3) (-5)) := by decide +kernel

end RangeExpr

end EventRules
