/-
The two evaluations of a list of checks against one plain account of it: all checks run in turn, none
left out, each with the generator the one before it left. Both evaluations come to a halt at the
first check of this run that does not pass, be it that it fails or that it ends in a fault; what they
answer, how far they look and where they leave the generator are functions of the part up to there.
-/
import EventRules.Check
import EventRules.Proofs.Problem
import Mathlib.Data.List.Basic

namespace EventRules

/-- The test comes to a verdict on the event, positive exactly if `p` holds. -/
def Test.Decides (t : Test) (e : Event) (g : Generator) (p : Prop) : Prop :=
  ∃ passed : Bool, (t.run e g).1 = .ok passed ∧ (passed = true ↔ p)

theorem Test.decides_fact {holds : Event → Bool} {e : Event} {p : Prop} (h : holds e = true ↔ p)
    (g : Generator) : (fact holds).Decides e g p := ⟨holds e, rfl, h⟩

/-- A test decides one thing only. -/
theorem Test.Decides.agree {t : Test} {e : Event} {g : Generator} {p q : Prop}
    (hp : t.Decides e g p) (hq : t.Decides e g q) : p ↔ q := by
  obtain ⟨passed, verdict, iff⟩ := hp
  obtain ⟨passed', verdict', iff'⟩ := hq
  cases verdict.symm.trans verdict'
  exact iff.symm.trans iff'

/-! ## A full run -/

namespace Check

/-- Whether the evaluation goes on after a verdict. -/
def goesOn : Except Fault Bool → Bool
  | .ok passed => passed
  | .error _ => false

/-- What verdicts come to: the first after which nothing goes on, else all is well. -/
def conclude (verdicts : List (Except Fault Bool)) : Except Fault Bool :=
  verdicts[verdicts.findIdx (!goesOn ·)]?.getD (.ok true)

/-- The verdicts of checks that are run in turn, none left out. -/
def verdicts : List Check → Event → Generator → List (Except Fault Bool)
  | [], _, _ => []
  | c :: rest, e, g => (c.test.run e g).1 :: verdicts rest e (c.test.run e g).2

/-- The generator behind checks that are run in turn, none left out. -/
def behind : List Check → Event → Generator → Generator
  | [], _, g => g
  | c :: rest, e, g => behind rest e (c.test.run e g).2

/-- The place of the first check that does not pass in a full run, the number of checks if all
pass. -/
def halt (checks : List Check) (e : Event) (g : Generator) : Nat :=
  (verdicts checks e g).findIdx (!goesOn ·)

/-! ## Verdicts -/

section Verdicts

variable {v : Except Fault Bool} {vs : List (Except Fault Bool)}

theorem goesOn_iff : goesOn v = true ↔ v = .ok true := by
  cases v with
  | error fault => exact iff_of_false Bool.false_ne_true nofun
  | ok passed => exact ⟨congrArg _, Except.ok.inj⟩

theorem conclude_cons_pass (vs : List (Except Fault Bool)) :
    conclude (.ok true :: vs) = conclude vs := by
  unfold conclude
  rw [List.findIdx_cons]
  rfl

theorem conclude_cons_stop (h : goesOn v = false) (vs : List (Except Fault Bool)) :
    conclude (v :: vs) = v := by
  unfold conclude
  rw [List.findIdx_cons, h]
  rfl

theorem conclude_eq_ok_true_iff : conclude vs = .ok true ↔ ∀ v ∈ vs, v = .ok true := by
  induction vs with
  | nil => exact iff_of_true rfl fun _ h => absurd h List.not_mem_nil
  | cons v rest ih =>
    rw [List.forall_mem_cons]
    rcases h : goesOn v with _ | _
    · have fails : v ≠ .ok true := fun passes => by
        rw [goesOn_iff.2 passes] at h
        cases h
      rw [conclude_cons_stop h]
      exact iff_of_false fails fun all => fails all.1
    · cases goesOn_iff.1 h
      rw [conclude_cons_pass, ih]
      exact (and_iff_right rfl).symm

/-- Where one of some verdicts is negative and none of them a fault, what follows does not matter. -/
theorem conclude_append_of_fails (decided : ∀ v ∈ vs, ∃ passed, v = .ok passed)
    (fails : .ok false ∈ vs) (later : List (Except Fault Bool)) :
    conclude (vs ++ later) = .ok false := by
  induction vs with
  | nil => cases fails
  | cons v rest ih =>
    obtain ⟨⟨passed, rfl⟩, others⟩ := List.forall_mem_cons.1 decided
    rw [List.cons_append]
    cases passed with
    | false => exact conclude_cons_stop rfl _
    | true =>
      rw [conclude_cons_pass]
      exact ih others ((List.mem_cons.1 fails).resolve_left nofun)

/-- The verdict `w` on two parts together: positive where both are, and what they come to where
neither is a fault. -/
structure Meets (w x y : Except Fault Bool) : Prop where
  passes_iff : w = .ok true ↔ x = .ok true ∧ y = .ok true
  of_ok : ∀ p q, x = .ok p → y = .ok q → w = .ok (p && q)

variable {w x y : Except Fault Bool} {ws xs ys : List (Except Fault Bool)}

theorem Meets.symm (h : Meets w x y) : Meets w y x where
  passes_iff := h.passes_iff.trans and_comm
  of_ok p q hp hq := by rw [h.of_ok q p hq hp, Bool.and_comm]

/-- One more verdict before those on the first part. -/
theorem Meets.cons (h : Meets (conclude ws) (conclude xs) y) (v : Except Fault Bool) :
    Meets (conclude (v :: ws)) (conclude (v :: xs)) y := by
  rcases hv : goesOn v with _ | _
  · rw [conclude_cons_stop hv, conclude_cons_stop hv]
    have stops : v ≠ .ok true := fun passes => by
      rw [goesOn_iff.2 passes] at hv
      cases hv
    refine ⟨iff_of_false stops fun both => stops both.1, fun p q hp _ => ?_⟩
    cases p with
    | false => exact hp
    | true => exact absurd hp stops
  · rw [goesOn_iff.1 hv, conclude_cons_pass, conclude_cons_pass]
    exact h

end Verdicts

theorem length_verdicts (checks : List Check) (e : Event) (g : Generator) :
    (verdicts checks e g).length = checks.length := by
  induction checks generalizing g with
  | nil => rfl
  | cons c rest ih => rw [verdicts, List.length_cons, List.length_cons, ih]

theorem halt_cons_pass {c : Check} {e : Event} {g : Generator}
    (h : goesOn (c.test.run e g).1 = true) (rest : List Check) :
    halt (c :: rest) e g = halt rest e (c.test.run e g).2 + 1 := by
  unfold halt
  rw [verdicts, List.findIdx_cons, h]
  rfl

theorem halt_cons_stop {c : Check} {e : Event} {g : Generator}
    (h : goesOn (c.test.run e g).1 = false) (rest : List Check) : halt (c :: rest) e g = 0 := by
  unfold halt
  rw [verdicts, List.findIdx_cons, h]
  rfl

/-! ## The two evaluations -/

/-- The plain evaluation answers what the verdicts come to, and leaves the generator behind the
check at which it comes to a halt. -/
theorem allPass_eq (checks : List Check) (e : Event) (g : Generator) :
    allPass checks e g = (conclude (verdicts checks e g),
      behind (checks.take (halt checks e g + 1)) e g) := by
  induction checks generalizing g with
  | nil => rfl
  | cons c rest ih =>
    rcases hc : c.test.run e g with ⟨_ | _ | _, g'⟩
    · rw [halt_cons_stop (by rw [hc]; rfl)]
      simp only [allPass, verdicts, behind, List.take_succ_cons, List.take_zero, hc,
        conclude_cons_stop (v := .error _) rfl]
    · rw [halt_cons_stop (by rw [hc]; rfl)]
      simp only [allPass, verdicts, behind, List.take_succ_cons, List.take_zero, hc,
        conclude_cons_stop (v := .ok false) rfl]
    · rw [halt_cons_pass (by rw [hc]; rfl)]
      simp only [allPass, verdicts, behind, List.take_succ_cons, hc, ih, conclude_cons_pass]

/-- The detailed evaluation comes to the same, names the checks up to where it halts, and leaves
the generator behind them. -/
theorem report_eq (checks : List Check) (e : Event) (g : Generator) :
    report checks e g =
      ((conclude (verdicts checks e g)).map fun _ =>
        ⟨(checks.take (halt checks e g + 1)).map keyword, checks[halt checks e g]?.map keyword⟩,
        behind (checks.take (halt checks e g + 1)) e g) := by
  induction checks generalizing g with
  | nil => rfl
  | cons c rest ih =>
    rcases hc : c.test.run e g with ⟨_ | _ | _, g'⟩
    · rw [halt_cons_stop (by rw [hc]; rfl)]
      simp only [report, verdicts, behind, List.take_succ_cons, List.take_zero, hc,
        conclude_cons_stop (v := .error _) rfl, Except.map]
    · rw [halt_cons_stop (by rw [hc]; rfl)]
      simp only [report, verdicts, behind, List.take_succ_cons, List.take_zero, List.map_cons,
        List.map_nil, List.getElem?_cons_zero, Option.map_some, hc,
        conclude_cons_stop (v := .ok false) rfl, Except.map]
    · rw [halt_cons_pass (by rw [hc]; rfl)]
      simp only [report, verdicts, behind, List.take_succ_cons, List.map_cons,
        List.getElem?_cons_succ, hc, ih, conclude_cons_pass]
      cases conclude (verdicts rest e g') <;> rfl

/-- Both evaluations take the same words. -/
theorem report_generator (checks : List Check) (e : Event) (g : Generator) :
    (report checks e g).2 = (allPass checks e g).2 := by
  rw [report_eq, allPass_eq]

section Halt

variable {checks : List Check} {e : Event} {g : Generator}

theorem allPass_iff_halt :
    (allPass checks e g).1 = .ok true ↔ halt checks e g = checks.length := by
  rw [allPass_eq, conclude_eq_ok_true_iff, ← length_verdicts checks e g, halt,
    List.findIdx_eq_length]
  simp only [Bool.not_eq_false', goesOn_iff]

theorem halt_lt (h : (allPass checks e g).1 ≠ .ok true) : halt checks e g < checks.length := by
  have ne : halt checks e g ≠ checks.length := mt allPass_iff_halt.2 h
  have le : halt checks e g ≤ checks.length := by
    rw [← length_verdicts checks e g]
    exact List.findIdx_le_length
  omega

/-- The verdict at which the evaluation halts is its answer. -/
theorem verdicts_halt (h : halt checks e g < checks.length) :
    (verdicts checks e g)[halt checks e g]? = some (allPass checks e g).1 := by
  rw [← length_verdicts checks e g] at h
  rw [allPass_eq]
  show _ = some ((verdicts checks e g)[halt checks e g]?.getD _)
  rw [List.getElem?_eq_getElem h, Option.getD_some]

theorem verdicts_before_halt {i : Nat} (hi : i < halt checks e g) :
    (verdicts checks e g)[i]? = some (.ok true) := by
  have hl : i < (verdicts checks e g).length := Nat.lt_of_lt_of_le hi List.findIdx_le_length
  have goes : (!goesOn (verdicts checks e g)[i]) = false := List.not_of_lt_findIdx hi
  rw [Bool.not_eq_false'] at goes
  rw [List.getElem?_eq_getElem hl, goesOn_iff.1 goes]

/-! ## What comes behind the halt -/

/-- Neither evaluation depends on the checks behind the halt. -/
theorem evaluation_take_append (h : (allPass checks e g).1 ≠ .ok true) (later : List Check) :
    allPass (checks.take (halt checks e g + 1) ++ later) e g = allPass checks e g ∧
      report (checks.take (halt checks e g + 1) ++ later) e g = report checks e g := by
  induction checks generalizing g with
  | nil => exact absurd rfl h
  | cons c rest ih =>
    rcases hc : c.test.run e g with ⟨_ | _ | _, g'⟩
    · rw [halt_cons_stop (by rw [hc]; rfl), List.take_succ_cons, List.cons_append]
      simp only [allPass, report, hc, and_self]
    · rw [halt_cons_stop (by rw [hc]; rfl), List.take_succ_cons, List.cons_append]
      simp only [allPass, report, hc, and_self]
    · have stops : (allPass rest e g').1 ≠ .ok true := by
        rwa [allPass, hc] at h
      rw [halt_cons_pass (by rw [hc]; rfl), List.take_succ_cons, List.cons_append]
      simp only [allPass, report, hc, ih stops, and_self]

end Halt

/-! ## The detailed evaluation tells the truth about the plain one -/

/-- The detailed evaluation agrees with the plain one in its verdict, be that a fault, and in the
generator behind it. It has looked at an initial part of the checks: all of them if they pass, else
those up to the first that does not, which is the one it names if it fails; and whatever stands
behind that check changes neither evaluation. -/
theorem report_agrees (checks : List Check) (e : Event) (g : Generator) :
    (report checks e g).1.map MatchReport.matched = (allPass checks e g).1 ∧
    (report checks e g).2 = (allPass checks e g).2 ∧
    (∀ r, (report checks e g).1 = .ok r → r.evaluated <+: checks.map keyword) ∧
    ((allPass checks e g).1 = .ok true →
      (report checks e g).1 = .ok ⟨checks.map keyword, none⟩) ∧
    ((allPass checks e g).1 ≠ .ok true →
      ∃ n < checks.length,
        (verdicts checks e g)[n]? = some (allPass checks e g).1 ∧
        (∀ i < n, (verdicts checks e g)[i]? = some (.ok true)) ∧
        (∀ r, (report checks e g).1 = .ok r →
          r.evaluated = (checks.map keyword).take (n + 1) ∧
          r.failedAt = r.evaluated.getLast? ∧ r.failedAt.isSome = true) ∧
        ∀ later, allPass (checks.take (n + 1) ++ later) e g = allPass checks e g ∧
          report (checks.take (n + 1) ++ later) e g = report checks e g) := by
  have told : (report checks e g).1 = (allPass checks e g).1.map fun _ =>
      ⟨(checks.map keyword).take (halt checks e g + 1), checks[halt checks e g]?.map keyword⟩ := by
    rw [report_eq, allPass_eq, List.map_take]
  have read {r : MatchReport} (h : (report checks e g).1 = .ok r) :
      r = ⟨(checks.map keyword).take (halt checks e g + 1),
        checks[halt checks e g]?.map keyword⟩ := by
    rw [told] at h
    obtain ⟨passed, -, rfl⟩ := exists_of_map h
    rfl
  refine ⟨?_, report_generator checks e g, fun r h => ?_, fun passes => ?_, fun stops => ?_⟩
  · rw [told]
    rcases h : (allPass checks e g).1 with fault | passed
    · rfl
    · cases passed with
      | false =>
        have lt := halt_lt (by rw [h]; nofun)
        rw [List.getElem?_eq_getElem lt]
        rfl
      | true =>
        rw [List.getElem?_eq_none (Nat.le_of_eq (allPass_iff_halt.1 h).symm)]
        rfl
  · rw [read h]
    exact List.take_prefix _ _
  · have all : halt checks e g = checks.length := allPass_iff_halt.1 passes
    rw [told, passes, all, List.take_of_length_le (by rw [List.length_map]; omega),
      List.getElem?_eq_none (Nat.le_refl _)]
    rfl
  · have lt := halt_lt stops
    refine ⟨_, lt, verdicts_halt lt, fun i hi => verdicts_before_halt hi, fun r h => ?_,
      evaluation_take_append stops⟩
    rw [read h]
    have failed : checks[halt checks e g]?.map keyword =
        some checks[halt checks e g].keyword := by
      rw [List.getElem?_eq_getElem lt, Option.map_some]
    refine ⟨rfl, ?_, by rw [failed]; rfl⟩
    rw [failed, List.getLast?_take]
    simp [lt]

end Check

end EventRules
