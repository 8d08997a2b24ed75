/-
What goes wrong with an action is a problem of its value as well.
-/
import EventRules.Proofs.Action.Reading
import EventRules.Proofs.Condition.Ordinary

namespace EventRules.Action

open Reported

theorem failsOnly_potionEffect (registry : Registry) (text : String) :
    FailsOnly Problem.OfValue (potionEffect registry text) := by
  unfold potionEffect
  split
  · exact failsOnly_error trivial
  · dsimp only
    split
    · exact failsOnly_ok _
    · exact failsOnly_error trivial

theorem only_potionActions (registry : Registry) :
    ∀ texts : List String, Only Problem.OfValue (potionActions registry texts)
  | [] => only_pure _
  | text :: rest => by
    rw [potionActions]
    exact only_bind (only_ofExcept (failsOnly_potionEffect _ _))
      (only_bind (only_potionActions registry rest) (only_pure _))

/-! ## Equipment -/

theorem failsOnly_describedStack (registry : Registry) (text : String) :
    FailsOnly Problem.OfValue (describedStack registry text) := by
  unfold describedStack
  split
  · exact failsOnly_error trivial
  · dsimp only
    split
    · exact failsOnly_error trivial
    · split
      · exact failsOnly_ok _
      · split
        · exact failsOnly_ok _
        · exact failsOnly_error trivial

theorem WeightedItem.failsOnly_stack (registry : Registry) (w : WeightedItem) :
    FailsOnly Problem.OfValue (w.stack registry) := by
  unfold WeightedItem.stack
  refine failsOnly_bind (failsOnly_describedStack _ _) fun s _ => ?_
  dsimp only
  split
  · exact failsOnly_ok _
  · split
    · exact failsOnly_ok _
    · exact failsOnly_error trivial

theorem failsOnly_weightedStack (registry : Registry) (v : Json) :
    FailsOnly Problem.OfValue (weightedStack registry v) := by
  unfold weightedStack
  split
  · exact failsOnly_map _ (failsOnly_describedStack _ _)
  · split
    · exact failsOnly_error trivial
    · exact failsOnly_map _ (WeightedItem.failsOnly_stack _ _)
  · exact failsOnly_error trivial

theorem only_weightedStacks (registry : Registry) :
    ∀ vs : List Json, Only Problem.OfValue (weightedStacks registry vs)
  | [] => only_pure _
  | v :: rest => by
    rw [weightedStacks]
    exact only_bind (only_ofExcept (failsOnly_weightedStack _ _))
      (only_bind (only_weightedStacks registry rest) (only_pure _))

theorem only_equipActions (registry : Registry) (slot : EquipmentSlot) (descriptions : List Json) :
    Only Problem.OfValue (equipActions registry slot descriptions) := by
  unfold equipActions
  refine only_bind (only_weightedStacks _ _) ?_
  split
  · exact only_pure _
  · split
    · exact only_pure _
    · exact only_pure _
    · exact only_bind (only_error trivial) (only_pure _)

theorem only_equipmentActions (registry : Registry) (m : AttributeMap) :
    ∀ keys, Only Problem.OfValue (equipmentActions registry m keys)
  | [] => only_pure _
  | (key, slot) :: rest => by
    rw [equipmentActions]
    exact only_bind (only_equipActions _ _ _)
      (only_bind (only_equipmentActions registry m rest) (only_pure _))

/-! ## All actions -/

theorem only_tagAction (v : Option Json) : Only Problem.OfValue (tagAction v) := by
  unfold tagAction
  split
  · exact only_pure _
  · split
    · exact only_pure _
    · exact only_bind (only_error trivial) (only_pure _)

/-- What the actions of a document report are problems of values. -/
theorem only_ofAttributes (registry : Registry) (m : AttributeMap) :
    Only Problem.OfValue (ofAttributes registry m) := by
  unfold ofAttributes
  exact only_bind (only_bind (only_potionActions _ _) (only_pure _)) <|
    only_bind (only_equipmentActions _ _ _) <|
      only_bind (only_bind (only_tagAction _) (only_pure _)) (only_pure _)

end EventRules.Action
