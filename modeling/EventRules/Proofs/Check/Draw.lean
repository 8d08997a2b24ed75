/-
How checks use the generator: a chance takes one word, and no other check looks at the generator at
all. With at most one chance among the checks the verdict is what they come to if each is started
from the same generator. The words that are taken depend on the order: where the chance comes first
it is always run, and else only if what stands before it passes.
-/
import EventRules.Proofs.Check.Evaluation

namespace EventRules

/-! ## Words taken -/

namespace Generator

/-- The generator behind some more words. -/
def skip (g : Generator) (count : Nat) : Generator := { g with drawn := g.drawn + count }

theorem skip_skip (g : Generator) (a b : Nat) : (g.skip a).skip b = g.skip (a + b) := by
  rw [skip, skip, skip, Nat.add_assoc]

theorem next_eq (g : Generator) : g.next = (g.word g.drawn, g.skip 1) := rfl

end Generator

/-- Whether a test draws a word. -/
def Test.draws : Test → Bool
  | .chance _ => true
  | .fact _ => false
  | .count _ => false

theorem Test.run_of_not_draws {t : Test} (h : t.draws = false) (e : Event) (g g' : Generator) :
    t.run e g = ((t.run e g').1, g) := by
  cases t with
  | chance p => cases h
  | fact holds => rfl
  | count holds => rfl

theorem Test.run_generator (t : Test) (e : Event) (g : Generator) :
    (t.run e g).2 = g.skip (if t.draws then 1 else 0) := by
  cases t <;> rfl

namespace Check

/-- What checks come to that are each started from the same generator. -/
def joint (checks : List Check) (e : Event) (g : Generator) : Except Fault Bool :=
  conclude (checks.map fun c => (c.test.run e g).1)

/-- Checks that draw nothing give their verdicts from any generator. -/
theorem allPass_of_not_draws {checks : List Check} (h : ∀ c ∈ checks, c.test.draws = false)
    (e : Event) (g g' : Generator) : allPass checks e g = (joint checks e g', g) := by
  unfold joint
  induction checks with
  | nil => rfl
  | cons c rest ih =>
    have hrest := ih fun c hc => h c (List.mem_cons_of_mem _ hc)
    rw [allPass, Test.run_of_not_draws (h c List.mem_cons_self) e g g', List.map_cons]
    rcases (c.test.run e g').1 with fault | _ | _
    · exact congrArg (·, g) (conclude_cons_stop rfl _).symm
    · exact congrArg (·, g) (conclude_cons_stop rfl _).symm
    · rw [conclude_cons_pass]
      exact hrest

/-- Where no check but the first may draw, what the evaluation takes are the words of all checks,
however far it comes. -/
theorem allPass_generator {checks : List Check} (h : ∀ c ∈ checks.tail, c.test.draws = false)
    (e : Event) (g : Generator) :
    (allPass checks e g).2 = g.skip (checks.countP (·.test.draws)) := by
  cases checks with
  | nil => rfl
  | cons c facts =>
    -- the first check always runs, and those behind it leave the generator where it is
    have none : facts.countP (·.test.draws) = 0 :=
      List.countP_eq_zero.2 fun c hc => Bool.eq_false_iff.1 (h c hc)
    have behind (g : Generator) : (allPass facts e g).2 = g :=
      congrArg Prod.snd (allPass_of_not_draws h e g g)
    rw [List.countP_cons, none, Nat.zero_add, ← c.test.run_generator e g, allPass]
    rcases c.test.run e g with ⟨_ | _ | _, g'⟩
    · rfl
    · rfl
    · exact behind g'

/-- With at most one chance every check may be started from the same generator. -/
theorem allPass_eq_joint {checks : List Check} (h : checks.countP (·.test.draws) ≤ 1) (e : Event)
    (g : Generator) : (allPass checks e g).1 = joint checks e g := by
  unfold joint
  induction checks with
  | nil => rfl
  | cons c rest ih =>
    rw [allPass, List.map_cons]
    rcases hc : c.test.draws with _ | _
    · rw [Test.run_of_not_draws hc e g g]
      rw [List.countP_cons_of_neg (by simp [hc])] at h
      rcases (c.test.run e g).1 with _ | _ | _
      · exact (conclude_cons_stop rfl _).symm
      · exact (conclude_cons_stop rfl _).symm
      · rw [conclude_cons_pass]
        exact ih h
    -- the one chance: for what follows the word drawn makes no difference
    · rw [List.countP_cons_of_pos (by simp [hc])] at h
      have facts : ∀ c ∈ rest, c.test.draws = false := by
        have none : rest.countP (·.test.draws) = 0 := by omega
        intro c hm
        exact Bool.eq_false_iff.2 (List.countP_eq_zero.1 none c hm)
      rcases hr : c.test.run e g with ⟨_ | _ | _, g'⟩
      · exact (conclude_cons_stop rfl _).symm
      · exact (conclude_cons_stop rfl _).symm
      · rw [conclude_cons_pass]
        exact congrArg Prod.fst (allPass_of_not_draws facts e g' g)

end Check

end EventRules
