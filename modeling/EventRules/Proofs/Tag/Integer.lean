/-
Integers in compounds, against equality with an integer. A tag holds an integer of 64 bits exactly,
but it is read back as one of 32 bits. So the condition that a tag equal an integer is satisfied by
the tag made of that integer exactly if the integer fits 32 bits: what a wider one is read as always
fits, and so it is another.
-/
import EventRules.Tag.Matcher
import EventRules.Proofs.Specifier.Compact
import Mathlib.Algebra.Order.Ring.Int

namespace EventRules

/-- An integer in JSON. -/
def Json.ofInt64 (n : Int64) : Json := .number (.integer n.toInt)

/-- An integer narrowed to 32 bits is the same integer exactly if it fits. -/
theorem toInt64_toInt32_eq_iff {n : Int64} :
    n.toInt32.toInt64 = n ↔ -2 ^ 31 ≤ n.toInt ∧ n.toInt < 2 ^ 31 := by
  rw [← Int64.toInt_inj, Int32.toInt_toInt64]
  have low := n.toInt32.le_toInt
  have high := n.toInt32.toInt_lt
  constructor
  · intro same
    omega
  · rintro ⟨inside, inside'⟩
    rw [Int64.toInt_toInt32]
    exact Int.bmod_eq_of_le (by omega) (by omega)

/-- Whether the tag of an integer is the narrower or the wider one, its integer is the low bits. -/
theorem Tag.exists_ofJson_int64 (n : Int64) :
    ∃ t, Tag.ofJson (.ofInt64 n) = some t ∧ t.int? = some n.toInt32 := by
  have whole : (Number.integer n.toInt).int64? = some n := Decimal.int64?_eq_some_iff.2 rfl
  rw [Json.ofInt64, Tag.ofJson, whole]
  rcases narrow : (Number.integer n.toInt).int32? with _ | w
  · exact ⟨.long n, rfl, rfl⟩
  · have same : n.toInt = w.toInt := Decimal.int32?_eq_some_iff.1 narrow
    refine ⟨.int w, rfl, congrArg some (Int32.toInt_inj.1 ?_)⟩
    rw [Int64.toInt_toInt32, same, Int32.toInt_bmod]

theorem RangeExpr.ofJson_int64 (n : Int64) : RangeExpr.ofJson (.ofInt64 n) = .ok (.equal n) := by
  have whole : (Number.integer n.toInt).int64? = some n := Decimal.int64?_eq_some_iff.2 rfl
  rw [Json.ofInt64, RangeExpr.ofJson, whole]

namespace TagMatcher

/-- The condition that a tag equal an integer, as it is written. -/
def equation (name : String) (n : Int64) : Json :=
  .array [.object [("tag", .string name), ("value", .ofInt64 n)]]

theorem listOfJson_equation (name : String) (n : Int64) :
    listOfJson (equation name n) = .ok [.value name (.equal n)] := by
  have decoded : TagEntry.allOfJson [.object [("tag", .string name), ("value", .ofInt64 n)]] =
      some [.mk name (some (.ofInt64 n)) none] := rfl
  rw [equation, listOfJson, decoded]
  dsimp only
  rw [TagEntry.matchers, TagEntry.matcher, RangeExpr.ofJson_int64]
  rfl

/-- The condition that a tag equal an integer can be read, as can the compound with that integer
under that name, and the compound satisfies the condition exactly if the integer fits 32 bits. -/
theorem equation_satisfied_iff (name : String) (n : Int64) :
    ∃ m c, listOfJson (equation name n) = .ok [m] ∧
      Compound.ofJson (.object [(name, .ofInt64 n)]) = some c ∧
      (m.test (some c) = true ↔ -2 ^ 31 ≤ n.toInt ∧ n.toInt < 2 ^ 31) := by
  obtain ⟨t, made, read⟩ := Tag.exists_ofJson_int64 n
  have compound : Compound.ofJson (.object [(name, .ofInt64 n)]) = some [(name, t)] := by
    show some (Compound.ofMembers _) = _
    rw [Compound.ofMembers, made]
    rfl
  have integer : Compound.int [(name, t)] name = n.toInt32 := by
    rw [Compound.int, Entries.find?, if_pos rfl, Option.bind_some, read]
    rfl
  refine ⟨_, _, listOfJson_equation name n, compound, ?_⟩
  rw [test, accepts, integer, ← toInt64_toInt32_eq_iff]
  exact decide_eq_true_iff

/-- Five thousand million is not what a tag of it is read as. -/
theorem wide_equation_not_satisfied :
    ∃ m c, listOfJson (equation "Time" 5000000000) = .ok [m] ∧
      Compound.ofJson (.object [("Time", .ofInt64 5000000000)]) = some c ∧
      m.test (some c) = false :=
  ⟨_, _, rfl, rfl, by decide⟩

end TagMatcher

end EventRules
