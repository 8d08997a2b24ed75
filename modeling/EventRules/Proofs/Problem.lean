/-
Laws of results that may have failed, and of results with reports: what each way of building one
reports and yields, and the property that everything reported is a problem of a certain kind, kept by
every one of these ways.
-/
import EventRules.Problem

namespace EventRules

/-! ## Results that may have failed -/

theorem exists_of_bind {ε α β : Type} {x : Except ε α} {next : α → Except ε β} {b : β}
    (h : x >>= next = .ok b) : ∃ a, x = .ok a ∧ next a = .ok b := by
  cases x with
  | error e => cases h
  | ok a => exact ⟨a, rfl, h⟩

theorem exists_of_map {ε α β : Type} {x : Except ε α} {g : α → β} {b : β} (h : x.map g = .ok b) :
    ∃ a, x = .ok a ∧ b = g a := by
  cases x with
  | error e => cases h
  | ok a =>
    cases h
    exact ⟨a, rfl, rfl⟩

end EventRules

namespace EventRules.Reported

variable {α β : Type} {r : Reported α} {f : α → Reported β} {p : Problem}

theorem ext {a b : Reported α} (hr : a.reports = b.reports) (hv : a.result = b.result) : a = b := by
  cases a
  cases b
  subst hr hv
  rfl

/-! ## Reports and results -/

@[simp] theorem reports_pure (a : α) : (pure a : Reported α).reports = [] := rfl

@[simp] theorem result_pure (a : α) : (pure a : Reported α).result = a := rfl

@[simp] theorem reports_bind : (r >>= f).reports = r.reports ++ (f r.result).reports := rfl

@[simp] theorem result_bind : (r >>= f).result = (f r.result).result := rfl

theorem silent_then (a : α) (f : α → Reported β) : (⟨[], a⟩ : Reported α) >>= f = f a := rfl

@[simp] theorem reports_map (g : α → β) : (g <$> r).reports = r.reports := List.append_nil _

@[simp] theorem result_map (g : α → β) : (g <$> r).result = g r.result := rfl

@[simp] theorem reports_error : (error p).reports = [⟨.error, p⟩] := rfl

@[simp] theorem reports_warn : (warn p).reports = [⟨.warning, p⟩] := rfl

@[simp] theorem reports_ofExcept_ok (a : α) : (ofExcept (.ok a)).reports = [] := rfl

@[simp] theorem result_ofExcept_ok (a : α) : (ofExcept (.ok a)).result = some a := rfl

@[simp] theorem reports_ofExcept_error :
    (ofExcept (.error p : Except Problem α)).reports = [⟨.error, p⟩] := rfl

@[simp] theorem result_ofExcept_error :
    (ofExcept (.error p : Except Problem α)).result = none := rfl

theorem silent_bind : (r >>= f).reports = [] ↔ r.reports = [] ∧ (f r.result).reports = [] :=
  List.append_eq_nil_iff

/-- A result that may have failed is there if nothing is reported. -/
theorem ofExcept_silent {x : Except Problem α} (h : (ofExcept x).reports = []) :
    ∃ a, x = .ok a := by
  cases x with
  | ok a => exact ⟨a, rfl⟩
  | error p => cases h

theorem orReport_silent {r : Reported (Except Problem α)} (h : r.orReport.reports = []) :
    r.reports = [] ∧ ∃ a, r.result = .ok a ∧ r.orReport.result = some a := by
  unfold orReport at h ⊢
  rcases hr : r.result with p | a
  · rw [hr] at h
    simp at h
  · rw [hr] at h
    exact ⟨h, a, rfl, rfl⟩

/-! ## Kinds of problems -/

/-- Every reported problem satisfies `P`. -/
def Only (P : Problem → Prop) (r : Reported α) : Prop := ∀ report ∈ r.reports, P report.problem

/-- The problem a failure consists of satisfies `P`. -/
def FailsOnly (P : Problem → Prop) (x : Except Problem α) : Prop := ∀ p, x = .error p → P p

variable {P : Problem → Prop}

theorem Only.imp {Q : Problem → Prop} (h : Only P r) (imp : ∀ p, P p → Q p) : Only Q r :=
  fun report hm => imp report.problem (h report hm)

theorem only_pure (a : α) : Only P (pure a) := fun _ h => by cases h

theorem only_bind (hr : Only P r) (hf : Only P (f r.result)) : Only P (r >>= f) := by
  intro report h
  rcases List.mem_append.1 h with h | h
  · exact hr report h
  · exact hf report h

theorem only_error (h : P p) : Only P (error p) := by
  intro report hm
  rw [reports_error, List.mem_singleton] at hm
  subst hm
  exact h

theorem only_warn (h : P p) : Only P (warn p) := by
  intro report hm
  rw [reports_warn, List.mem_singleton] at hm
  subst hm
  exact h

theorem only_ofExcept {x : Except Problem α} (h : FailsOnly P x) : Only P (ofExcept x) := by
  cases x with
  | ok a => exact fun _ hm => by cases hm
  | error p => exact only_error (h p rfl)

/-- Everything reported, and the problem a failed result consists of, satisfies `P`. -/
def RefusesOnly (P : Problem → Prop) (r : Reported (Except Problem α)) : Prop :=
  Only P r ∧ FailsOnly P r.result

theorem only_orReport {r : Reported (Except Problem α)} (h : RefusesOnly P r) :
    Only P r.orReport := by
  obtain ⟨hr, h⟩ := h
  unfold orReport
  rcases hx : r.result with p | a
  · intro report hm
    rcases List.mem_append.1 hm with hm | hm
    · exact hr report hm
    · rw [List.mem_singleton] at hm
      subst hm
      exact h p hx
  · exact hr

theorem failsOnly_ok (a : α) : FailsOnly P (.ok a) := fun _ h => by cases h

theorem failsOnly_error (h : P p) : FailsOnly P (.error p : Except Problem α) := by
  intro q hq
  cases hq
  exact h

theorem failsOnly_bind {x : Except Problem α} {f : α → Except Problem β} (hx : FailsOnly P x)
    (hf : ∀ a, x = .ok a → FailsOnly P (f a)) : FailsOnly P (x >>= f) := by
  cases x with
  | ok a => exact hf a rfl
  | error p => exact failsOnly_error (hx p rfl)

theorem failsOnly_map {x : Except Problem α} (f : α → β) (hx : FailsOnly P x) :
    FailsOnly P (x.map f) := by
  cases x with
  | ok a => exact failsOnly_ok _
  | error p => exact failsOnly_error (hx p rfl)

theorem failsOnly_mapM {f : α → Except Problem β} (hf : ∀ a, FailsOnly P (f a)) :
    ∀ as : List α, FailsOnly P (as.mapM f)
  | [] => failsOnly_ok _
  | a :: as => by
    rw [List.mapM_cons]
    exact failsOnly_bind (hf a) fun _ _ =>
      failsOnly_bind (failsOnly_mapM hf as) fun _ _ => failsOnly_ok _

theorem refusesOnly_pure {x : Except Problem α} (h : FailsOnly P x) : RefusesOnly P (pure x) :=
  ⟨only_pure _, h⟩

theorem refusesOnly_bind {r : Reported β} {f : β → Reported (Except Problem α)} (hr : Only P r)
    (hf : RefusesOnly P (f r.result)) : RefusesOnly P (r >>= f) :=
  ⟨only_bind hr hf.1, hf.2⟩

end EventRules.Reported
