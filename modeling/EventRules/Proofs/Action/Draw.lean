/-
What actions take from the generator: on a living entity each piece of equipment takes the one word
that chooses its stack, whatever is chosen, and on nothing living no action takes any. No action
makes a target living or takes its life, so this holds along a whole run.
-/
import EventRules.Action.Basic
import EventRules.Proofs.Check.Draw

namespace EventRules

/-! ## Targets stay what they are -/

namespace Target

theorem isSome_living_after (t : Target) (change : Change) :
    (t.after change).living.isSome = t.living.isSome := Option.isSome_map

theorem isSome_living_afterAll (t : Target) (changes : List Change) :
    (t.afterAll changes).living.isSome = t.living.isSome := by
  unfold afterAll
  induction changes generalizing t with
  | nil => rfl
  | cons change rest ih => rw [List.foldl_cons, ih, isSome_living_after]

end Target

/-! ## Words taken -/

namespace Action

/-- Whether an action equips the entity with one of its stacks. -/
def equips : Action → Bool
  | .equip _ _ => true
  | _ => false

theorem changesOn_generator (a : Action) (l : LivingEntity) (g : Generator) :
    (a.changesOn l g).2 = g.skip (if a.equips then 1 else 0) := by
  cases a with
  | adjust which set multiply add =>
    -- an attribute that was changed before, or that the entity lacks, is left alone
    rw [changesOn]
    split
    · rfl
    · split <;> rfl
  | equip slot choice =>
    -- the word is taken before the choice is looked at
    rw [changesOn, g.next_eq]
    dsimp only
    split <;> rfl
  | _ => rfl

theorem changes_generator (a : Action) (t : Target) (g : Generator) :
    (a.changes t g).2 = g.skip (if t.living.isSome && a.equips then 1 else 0) := by
  unfold changes
  rcases t.living with _ | l
  · cases a <;> rfl
  · have living := a.changesOn_generator l g
    cases a <;> exact living

/-- A run of actions takes one word for each piece of equipment, if the target is living. -/
theorem applyAll_generator (actions : List Action) (t : Target) (g : Generator) :
    (applyAll actions t g).2.2 = g.skip (if t.living.isSome then actions.countP equips else 0) := by
  induction actions generalizing t g with
  | nil =>
    rw [List.countP_nil, ite_self]
    rfl
  | cons a rest ih =>
    show (applyAll rest (t.afterAll (a.changes t g).1) (a.changes t g).2).2.2 = _
    -- the others count on the target being as living as it was before the first action
    rw [ih, Target.isSome_living_afterAll, changes_generator, Generator.skip_skip,
      List.countP_cons]
    rcases t.living with _ | l
    · rfl
    · exact congrArg g.skip (Nat.add_comm _ _)

end Action

end EventRules
