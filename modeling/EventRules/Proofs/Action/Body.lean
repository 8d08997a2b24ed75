/-
Actions on an entity of which only little is known: what it shows, how it takes a change, and that
its markers are those put on it and stay, and its attributes the same ones throughout. On every such
entity a run of actions makes the first adjustment of an attribute that is open, and no other. The
entity that the library itself changes is one of these.
-/
import EventRules.Proofs.Action.Adjustment
import EventRules.Proofs.Dict

namespace EventRules

/-! ## Entities -/

/-- A living entity as its host has it: what each of its states shows to those who look, and the
state that a change leaves behind. -/
structure Body (σ : Type) where
  view : σ → LivingEntity
  after : σ → Change → σ

/-- A change, with the state of the entity that it met. -/
structure Moment (σ : Type) where
  state : σ
  change : Change

/-- The moments whose changes are about an attribute. -/
def Moment.about {σ : Type} (which : EntityAttribute) (moments : List (Moment σ)) :
    List (Moment σ) :=
  moments.filter fun m => m.change.concerns which

namespace Body

variable {σ : Type} (b : Body σ)

/-- Changes with the states they meet one after the other. -/
def moments (s : σ) : List Change → List (Moment σ)
  | [] => []
  | c :: rest => ⟨s, c⟩ :: moments (b.after s c) rest

def afterAll (s : σ) (changes : List Change) : σ := changes.foldl b.after s

/-- The state that an action leaves. -/
def next (a : Action) (s : σ) (g : Generator) : σ := b.afterAll s (a.changesOn (b.view s) g).1

/-- All actions in order, each looking at what those before it left: the moments, the state after
them, and the generator behind them. -/
def applyAll : List Action → σ → Generator → List (Moment σ) × σ × Generator
  | [], s, g => ([], s, g)
  | a :: rest, s, g =>
    let (others, t, g') := applyAll rest (b.next a s g) (a.changesOn (b.view s) g).2
    (b.moments s (a.changesOn (b.view s) g).1 ++ others, t, g')

/-- Of an attribute the moments hold one whole adjustment and nothing else: the base is set to the
value made from the base there is at that moment, for the maximum of health, and for it alone, the
health is set to the same value in single precision, and the marker is put on. -/
def Adjusts (which : EntityAttribute) (adj : Adjustment) (moments : List (Moment σ)) : Prop :=
  ∃ state base, (b.view state).base which = some base ∧
    Moment.about which moments = b.moments state (
      if which = .maxHealth then
        [.setBase .maxHealth (adj.value base), .setHealth (adj.value base).convert,
          .addMarker which.marker]
      else [.setBase which (adj.value base), .addMarker which.marker])

/-- The entity bears the markers that were put on it, for good, and no change gives it an attribute
or takes one, where only the bases of those it has are set. -/
structure Lawful : Prop where
  marked : ∀ s c name, (b.view (b.after s c)).markers.contains name =
    ((b.view s).markers.contains name || c.marks name)
  has : ∀ s c, (∀ which value, c = .setBase which value → ((b.view s).base which).isSome = true) →
    ∀ which, ((b.view (b.after s c)).base which).isSome = ((b.view s).base which).isSome

/-- How an attribute stands: whether its marker is there, and whether the entity has it. -/
def standing (which : EntityAttribute) (s : σ) : Bool × Bool :=
  ((b.view s).markers.contains which.marker, ((b.view s).base which).isSome)

/-- The attribute is there and not marked, so that it can still be adjusted. -/
def Open (which : EntityAttribute) (s : σ) : Prop := b.standing which s = (false, true)

variable {b} {which : EntityAttribute} {s : σ} {a : Action} {g : Generator} {changes : List Change}

theorem open_iff :
    b.Open which s ↔
      (b.view s).markers.contains which.marker = false ∧ ((b.view s).base which).isSome = true := by
  rw [Open, standing, Prod.mk.injEq]

theorem not_open_iff :
    ¬ b.Open which s ↔
      (b.view s).markers.contains which.marker = true ∨ (b.view s).base which = none := by
  rw [open_iff, Classical.not_and_iff_not_or_not, Bool.not_eq_false, Bool.not_eq_true,
    Option.isSome_eq_false_iff, Option.isNone_iff_eq_none]

/-! ## Moments -/

theorem about_eq_nil (h : ∀ c ∈ changes, c.concerns which = false) :
    Moment.about which (b.moments s changes) = [] := by
  induction changes generalizing s with
  | nil => rfl
  | cons c rest ih =>
    obtain ⟨first, others⟩ := List.forall_mem_cons.1 h
    rw [moments, Moment.about, List.filter_cons, if_neg (by rw [first]; exact Bool.false_ne_true)]
    exact ih others

theorem about_eq_self (h : ∀ c ∈ changes, c.concerns which = true) :
    Moment.about which (b.moments s changes) = b.moments s changes := by
  induction changes generalizing s with
  | nil => rfl
  | cons c rest ih =>
    obtain ⟨first, others⟩ := List.forall_mem_cons.1 h
    rw [moments, Moment.about, List.filter_cons, if_pos first]
    exact congrArg _ (ih others)

theorem about_append (first others : List (Moment σ)) :
    Moment.about which (first ++ others) = Moment.about which first ++ Moment.about which others :=
  List.filter_append ..

theorem map_change_moments (b : Body σ) (s : σ) (changes : List Change) :
    (b.moments s changes).map Moment.change = changes := by
  induction changes generalizing s with
  | nil => rfl
  | cons c rest ih => rw [moments, List.map_cons, ih]

theorem applyAll_cons (b : Body σ) (a : Action) (rest : List Action) (s : σ) (g : Generator) :
    b.applyAll (a :: rest) s g =
      (b.moments s (a.changesOn (b.view s) g).1 ++
          (b.applyAll rest (b.next a s g) (a.changesOn (b.view s) g).2).1,
        (b.applyAll rest (b.next a s g) (a.changesOn (b.view s) g).2).2) :=
  rfl

/-! ## Standing after changes -/

namespace Lawful

variable (lawful : b.Lawful)
include lawful

theorem marked_afterAll (name : String) :
    (b.view (b.afterAll s changes)).markers.contains name =
      ((b.view s).markers.contains name || changes.any (·.marks name)) := by
  induction changes generalizing s with
  | nil => exact (Bool.or_false _).symm
  | cons c rest ih =>
    show (b.view (b.afterAll (b.after s c) rest)).markers.contains name = _
    rw [ih, lawful.marked, List.any_cons, Bool.or_assoc]

theorem has_afterAll
    (fits : ∀ which value, .setBase which value ∈ changes → ((b.view s).base which).isSome = true)
    (which : EntityAttribute) :
    ((b.view (b.afterAll s changes)).base which).isSome = ((b.view s).base which).isSome := by
  induction changes generalizing s with
  | nil => rfl
  | cons c rest ih =>
    -- what the first change keeps is what the others count on
    have kept := lawful.has s c fun which value h => fits which value (h ▸ List.mem_cons_self)
    show ((b.view (b.afterAll (b.after s c) rest)).base which).isSome = _
    rw [ih fun other value h => (kept other).trans (fits other value (List.mem_cons_of_mem _ h)),
      kept]

/-- Changes that leave an attribute alone leave it standing as it was. -/
theorem standing_afterAll
    (fits : ∀ which value, .setBase which value ∈ changes → ((b.view s).base which).isSome = true)
    (apart : ∀ c ∈ changes, c.concerns which = false) :
    b.standing which (b.afterAll s changes) = b.standing which s := by
  have none_marks : changes.any (·.marks which.marker) = false := by
    rw [List.any_eq_false]
    intro c hc marks
    have concerned := Change.concerns_of_marks marks
    rw [apart c hc] at concerned
    cases concerned
  rw [standing, lawful.marked_afterAll, none_marks, Bool.or_false, lawful.has_afterAll fits,
    standing]

theorem not_open_after_adjustment (value : Double) :
    ¬ b.Open which (b.afterAll s (Action.adjustment which value)) := by
  have marks : (Action.adjustment which value).any (·.marks which.marker) = true :=
    List.any_eq_true.2 ⟨.addMarker which.marker, by simp [Action.adjustment], decide_eq_true rfl⟩
  rw [open_iff, lawful.marked_afterAll, marks, Bool.or_true]
  rintro ⟨unmarked, -⟩
  cases unmarked

/-! ## One action -/

/-- An action that does not adjust an attribute, or does not find it open, leaves it alone. -/
theorem step_apart (h : a.adjustment? which = none ∨ ¬ b.Open which s) :
    Moment.about which (b.moments s (a.changesOn (b.view s) g).1) = [] ∧
      b.standing which (b.next a s g) = b.standing which s := by
  have apart : ∀ c ∈ (a.changesOn (b.view s) g).1, c.concerns which = false :=
    Action.changesOn_apart (h.imp_right not_open_iff.1)
  exact ⟨about_eq_nil apart,
    lawful.standing_afterAll (fun _ _ => Action.has_of_setBase) apart⟩

/-- An action that adjusts an open attribute makes the adjustment and closes it. -/
theorem step_of_open {adj : Adjustment} (isOpen : b.Open which s)
    (adjusts : a.adjustment? which = some adj) :
    b.Adjusts which adj (b.moments s (a.changesOn (b.view s) g).1) ∧
      ¬ b.Open which (b.next a s g) := by
  obtain ⟨unmarked, there⟩ := open_iff.1 isOpen
  obtain ⟨base, has⟩ := Option.isSome_iff_exists.1 there
  rw [next, Action.changesOn_of_open adjusts unmarked has]
  refine ⟨⟨s, base, has, ?_⟩, lawful.not_open_after_adjustment _⟩
  rw [← Action.adjustment_eq]
  refine about_eq_self fun c hc => ?_
  rw [Action.concerns_adjustment hc, decide_eq_true rfl]

/-! ## Runs of actions -/

/-- An attribute that no action adjusts, or that is not open, is left alone. -/
theorem applyAll_apart (actions : List Action)
    (h : (∀ a ∈ actions, a.adjustment? which = none) ∨ ¬ b.Open which s) :
    Moment.about which (b.applyAll actions s g).1 = [] ∧
      b.standing which (b.applyAll actions s g).2.1 = b.standing which s := by
  induction actions generalizing s g with
  | nil => exact ⟨rfl, rfl⟩
  | cons a rest ih =>
    obtain ⟨apart, same⟩ :=
      lawful.step_apart (g := g) (h.imp_left fun idle => idle a List.mem_cons_self)
    have behind : (∀ a ∈ rest, a.adjustment? which = none) ∨ ¬ b.Open which (b.next a s g) :=
      h.imp (fun idle a ha => idle a (List.mem_cons_of_mem _ ha))
        fun closed => by rwa [Open, same]
    obtain ⟨quiet, kept⟩ := ih (g := (a.changesOn (b.view s) g).2) behind
    rw [applyAll_cons]
    refine ⟨?_, kept.trans same⟩
    rw [about_append, apart, quiet]
    rfl

/-- Of an open attribute the first action that adjusts it makes the adjustment, from the base it
finds, and closes it; all else leaves it alone. -/
theorem applyAll_of_open {actions : List Action} {adj : Adjustment} (isOpen : b.Open which s)
    (adjusts : actions.findSome? (Action.adjustment? which) = some adj) :
    b.Adjusts which adj (b.applyAll actions s g).1 ∧
      ¬ b.Open which (b.applyAll actions s g).2.1 := by
  induction actions generalizing s g with
  | nil => cases adjusts
  | cons a rest ih =>
    rw [List.findSome?_cons] at adjusts
    rw [applyAll_cons, Adjusts, about_append]
    rcases first : a.adjustment? which with _ | adj'
    · -- the first action is about something else
      rw [first] at adjusts
      obtain ⟨apart, same⟩ := lawful.step_apart (g := g) (.inl first)
      rw [apart, List.nil_append]
      exact ih (same.trans isOpen) adjusts
    · -- the first action makes the adjustment, and those behind it find it made
      rw [first] at adjusts
      cases adjusts
      obtain ⟨adjusted, closed⟩ := lawful.step_of_open (g := g) isOpen first
      obtain ⟨quiet, kept⟩ :=
        lawful.applyAll_apart rest (g := (a.changesOn (b.view s) g).2) (.inr closed)
      rw [quiet, List.append_nil]
      refine ⟨adjusted, fun reopened => closed ?_⟩
      exact kept.symm.trans reopened

end Lawful

/-! ## The library's own entities -/

/-- The living entity that changes are made to here. -/
def own : Body LivingEntity := ⟨id, LivingEntity.after⟩

theorem lawful_own : own.Lawful where
  marked l c name := by
    cases c with
    | addMarker added =>
      show (Dict.get? (l.markers.insert added ()) name).isSome =
        ((Dict.get? l.markers name).isSome || decide (added = name))
      rw [Dict.get?_insert]
      by_cases h : added = name
      · simp [h]
      · simp [h]
    | _ => exact (Bool.or_false _).symm
  has l c fits which := by
    cases c with
    | setBase other value =>
      show (if which = other then some value else l.base which).isSome = (l.base which).isSome
      by_cases h : which = other
      · rw [if_pos h, h]
        exact (fits other value rfl).symm
      · rw [if_neg h]
    | _ => rfl

theorem living_afterAll {t : Target} {l : LivingEntity} (living : t.living = some l)
    (changes : List Change) : (t.afterAll changes).living = some (own.afterAll l changes) := by
  induction changes generalizing t l with
  | nil => exact living
  | cons c rest ih =>
    refine ih (t := t.after c) (l := l.after c) ?_
    show t.living.map _ = _
    rw [living]
    rfl

/-- Actions on a target with a living entity do to it what they do to the entity by itself. -/
theorem applyAll_own (actions : List Action) {t : Target} {l : LivingEntity}
    (living : t.living = some l) (g : Generator) :
    (Action.applyAll actions t g).1 = (own.applyAll actions l g).1.map Moment.change ∧
      (Action.applyAll actions t g).2.1.living = some (own.applyAll actions l g).2.1 ∧
      (Action.applyAll actions t g).2.2 = (own.applyAll actions l g).2.2 := by
  induction actions generalizing t l g with
  | nil => exact ⟨rfl, living, rfl⟩
  | cons a rest ih =>
    have same : a.changes t g = a.changesOn l g := by
      unfold Action.changes
      rw [living]
      cases a <;> rfl
    obtain ⟨changes, state, generator⟩ := ih (living_afterAll living (a.changesOn l g).1)
      (a.changesOn l g).2
    have first : Action.applyAll (a :: rest) t g =
        ((a.changesOn l g).1 ++ (Action.applyAll rest (t.afterAll (a.changesOn l g).1)
            (a.changesOn l g).2).1,
          (Action.applyAll rest (t.afterAll (a.changesOn l g).1) (a.changesOn l g).2).2) := by
      rw [← same]
      rfl
    rw [first, applyAll_cons, List.map_append, map_change_moments]
    exact ⟨congrArg _ changes, state, generator⟩

end Body

end EventRules
