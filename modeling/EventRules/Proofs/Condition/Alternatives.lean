/-
Questions among alternatives: the direct comparison and the set give the same answer, that of the
list of values. So order and repetition of the values do not matter.
-/
import EventRules.Condition.Alternatives

namespace EventRules.Alternatives

variable {α : Type} {values : List α}

theorem exists_of_ne_nil (h : values ≠ []) : ∃ a, of? values = some a := by
  unfold of?
  split
  · exact absurd rfl h
  · exact ⟨_, rfl⟩
  · exact ⟨_, rfl⟩

/-- A subject is among the alternatives if it is in the list of the values. -/
theorem contains_eq [BEq α] [LawfulBEq α] {a : Alternatives α} (h : of? values = some a) {x : α} :
    a.contains x = values.contains x := by
  unfold of? at h
  split at h
  · cases h
  · cases h
    rw [contains, List.contains_cons, List.contains_nil, Bool.or_false, Bool.beq_comm]
  · cases h
    rfl

end EventRules.Alternatives
