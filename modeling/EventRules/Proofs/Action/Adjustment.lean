/-
The adjustment of an attribute, as far as one action and one document go. An action leaves an
attribute alone unless it adjusts that very one, the entity has it and does not bear its marker;
then it makes the whole adjustment: the new base, the health if it is the maximum of health, the
marker. A document gives one such action for an attribute at most, from the attribute's keywords.
-/
import EventRules.Proofs.Action.Reading
import EventRules.Proofs.Problem

namespace EventRules

/-! ## Adjustments -/

/-- How an attribute is to be changed: an amount to start from, a factor and an offset. -/
structure Adjustment where
  set : Option Single
  multiply : Single
  add : Single
deriving DecidableEq

/-- The new base: the amount that is set, or else the base there is, scaled and offset. -/
def Adjustment.value (a : Adjustment) (base : Double) : Double :=
  let start : Double :=
    match a.set with
    | some v => v.convert
    | none => base
  start * a.multiply.convert + a.add.convert

/-- The adjustment of an attribute that an action is, if it is one. -/
def Action.adjustment? (which : EntityAttribute) : Action → Option Adjustment
  | .adjust other set multiply add => if other = which then some ⟨set, multiply, add⟩ else none
  | _ => none

/-- Whether a change puts a marker on the entity. -/
def Change.marks (name : String) : Change → Bool
  | .addMarker added => added = name
  | _ => false

/-- Whether a change is one of those that adjust an attribute: its base, its marker, and for the
maximum of health the health itself. -/
def Change.concerns (which : EntityAttribute) : Change → Bool
  | .setBase other _ => other = which
  | .setHealth _ => which = .maxHealth
  | .addMarker name => name = which.marker
  | _ => false

theorem EntityAttribute.marker_injective {a b : EntityAttribute} (h : a.marker = b.marker) :
    a = b := by
  cases a <;> cases b <;> first | rfl | exact absurd h (by decide)

theorem Change.concerns_of_marks {c : Change} {which : EntityAttribute}
    (h : c.marks which.marker = true) : c.concerns which = true := by
  cases c with
  | addMarker name => exact h
  | _ => cases h

/-! ## One action -/

namespace Action

variable {a : Action} {l : LivingEntity} {g : Generator} {which other : EntityAttribute}
  {adj : Adjustment} {c : Change}

theorem adjustment_eq (which : EntityAttribute) (value : Double) :
    adjustment which value =
      if which = .maxHealth then
        [.setBase .maxHealth value, .setHealth value.convert, .addMarker which.marker]
      else [.setBase which value, .addMarker which.marker] := by
  cases which <;> rfl

/-- The changes that adjust an attribute concern it and no other. -/
theorem concerns_adjustment {value : Double} (h : c ∈ adjustment other value) :
    c.concerns which = decide (other = which) := by
  have marker : decide (other.marker = which.marker) = decide (other = which) :=
    decide_eq_decide.2 ⟨EntityAttribute.marker_injective, congrArg _⟩
  have health : decide (which = .maxHealth) = decide (EntityAttribute.maxHealth = which) :=
    decide_eq_decide.2 eq_comm
  cases other <;>
    · simp only [adjustment, List.nil_append, List.cons_append, List.mem_cons, List.not_mem_nil,
        or_false] at h
      rcases h with rfl | rfl | rfl <;> first | rfl | exact marker | exact health

theorem adjustment?_eq_some_iff :
    a.adjustment? which = some adj ↔ a = .adjust which adj.set adj.multiply adj.add := by
  obtain ⟨set, multiply, add⟩ := adj
  cases a with
  | adjust other set' multiply' add' =>
    by_cases h : other = which
    · simp [adjustment?, h]
    · simp [adjustment?, h]
  | _ => simp [adjustment?]

theorem changesOn_adjust {base : Double} (unmarked : l.markers.contains which.marker = false)
    (has : l.base which = some base) (adj : Adjustment) :
    (adjust which adj.set adj.multiply adj.add).changesOn l g =
      (adjustment which (adj.value base), g) := by
  rw [changesOn, unmarked, has]
  rfl

theorem changesOn_adjust_of_settled
    (settled : l.markers.contains which.marker = true ∨ l.base which = none) (adj : Adjustment) :
    (adjust which adj.set adj.multiply adj.add).changesOn l g = ([], g) := by
  rw [changesOn]
  rcases marked : l.markers.contains which.marker with _ | _
  · rcases settled with marked' | missing
    · rw [marked] at marked'
      cases marked'
    · rw [missing]
      rfl
  · rfl

/-- The changes of an action are those of an adjustment, or concern no attribute. -/
theorem changesOn_cases (a : Action) (l : LivingEntity) (g : Generator) :
    (∃ which adj base, a.adjustment? which = some adj ∧
      l.markers.contains which.marker = false ∧ l.base which = some base ∧
      (a.changesOn l g).1 = adjustment which (adj.value base)) ∨
    ∀ c ∈ (a.changesOn l g).1, ∀ which, c.concerns which = false := by
  cases a with
  | adjust which set multiply add =>
    rcases marked : l.markers.contains which.marker with _ | _
    · rcases has : l.base which with _ | base
      · right
        rw [changesOn_adjust_of_settled (.inr has) ⟨set, multiply, add⟩]
        exact List.forall_mem_nil _
      · left
        refine ⟨which, ⟨set, multiply, add⟩, base, if_pos rfl, marked, has, ?_⟩
        rw [changesOn_adjust marked has ⟨set, multiply, add⟩]
    · right
      rw [changesOn_adjust_of_settled (.inl marked) ⟨set, multiply, add⟩]
      exact List.forall_mem_nil _
  | equip slot choice =>
    right
    rw [changesOn]
    dsimp only
    split <;> simp [Change.concerns]
  | _ => right; simp [changesOn, Change.concerns]

/-- Only the base of an attribute that the entity has is set. -/
theorem has_of_setBase {value : Double} (h : .setBase which value ∈ (a.changesOn l g).1) :
    (l.base which).isSome = true := by
  have concerned : (Change.setBase which value).concerns which = true := decide_eq_true rfl
  rcases changesOn_cases a l g with ⟨other, adj, base, -, -, has, made⟩ | apart
  · rw [made] at h
    rw [concerns_adjustment h, decide_eq_true_eq] at concerned
    rw [← concerned, has]
    rfl
  · rw [apart _ h which] at concerned
    cases concerned

/-- An action that does not adjust an attribute, or finds it settled, changes nothing of it. -/
theorem changesOn_apart
    (h : a.adjustment? which = none ∨ l.markers.contains which.marker = true ∨
      l.base which = none) :
    ∀ c ∈ (a.changesOn l g).1, c.concerns which = false := by
  intro c hc
  rcases changesOn_cases a l g with ⟨other, adj, base, adjusts, unmarked, has, made⟩ | apart
  · rw [made] at hc
    rw [concerns_adjustment hc, decide_eq_false_iff_not]
    rintro rfl
    rcases h with idle | marked | missing
    · rw [adjusts] at idle
      cases idle
    · rw [unmarked] at marked
      cases marked
    · rw [has] at missing
      cases missing
  · exact apart c hc which

/-- An action that adjusts an attribute makes all of the adjustment, if the attribute is there and
not marked yet. -/
theorem changesOn_of_open {base : Double} (adjusts : a.adjustment? which = some adj)
    (unmarked : l.markers.contains which.marker = false) (has : l.base which = some base) :
    (a.changesOn l g).1 = adjustment which (adj.value base) := by
  rw [adjustment?_eq_some_iff] at adjusts
  rw [adjusts, changesOn_adjust unmarked has]

end Action

/-! ## Documents -/

/-- The keywords of an attribute: what sets it, what scales it, what is added to it. -/
def EntityAttribute.keywords : EntityAttribute → Key .float × Key .float × Key .float
  | .maxHealth => (Keyword.healthSet, Keyword.healthMultiply, Keyword.healthAdd)
  | .movementSpeed => (Keyword.speedSet, Keyword.speedMultiply, Keyword.speedAdd)
  | .attackDamage => (Keyword.damageSet, Keyword.damageMultiply, Keyword.damageAdd)

/-- The adjustment of an attribute that a document asks for, if one of the keywords is there. -/
def AttributeMap.adjustment? (m : AttributeMap) (which : EntityAttribute) : Option Adjustment :=
  let (set, multiply, add) := which.keywords
  if m.contains set || m.contains multiply || m.contains add then
    some ⟨m.get? set, Action.valueOr m multiply (.one : Single),
      Action.valueOr m add (.zero false : Single)⟩
  else none

namespace Action

variable {m : AttributeMap} {which : EntityAttribute} {registry : Registry}

theorem filterMap_adjustAction (m : AttributeMap) (which other : EntityAttribute) :
    (adjustAction m other other.keywords.1 other.keywords.2.1 other.keywords.2.2).filterMap
        (adjustment? which) =
      if other = which then (m.adjustment? which).toList else [] := by
  by_cases same : other = which
  · subst same
    rw [if_pos rfl, adjustAction, AttributeMap.adjustment?]
    dsimp only
    split
    · exact List.filterMap_cons_some (if_pos rfl)
    · rfl
  · rw [if_neg same, adjustAction]
    split
    · exact List.filterMap_cons_none (if_neg same)
    · rfl

theorem filterMap_sizeAction : (sizeAction m).filterMap (adjustment? which) = [] := by
  rw [sizeAction]
  split <;> rfl

theorem filterMap_potionActions (texts : List String) :
    (potionActions registry texts).result.filterMap (adjustment? which) = [] := by
  induction texts with
  | nil => rfl
  | cons text rest ih =>
    rw [potionActions, Reported.result_bind, Reported.result_bind, Reported.result_pure,
      List.filterMap_append, ih]
    rcases (Reported.ofExcept (potionEffect registry text)).result with _ | effect <;> rfl

theorem filterMap_equipActions (slot : EquipmentSlot) (descriptions : List Json) :
    ((equipActions registry slot descriptions).result.toOption.getD []).filterMap
      (adjustment? which) = [] := by
  rw [equipActions, Reported.result_bind]
  split
  · rfl
  · split <;> rfl

theorem filterMap_equipmentActions (keys : List (Key .json × EquipmentSlot)) :
    (equipmentActions registry m keys).result.filterMap (adjustment? which) = [] := by
  induction keys with
  | nil => rfl
  | cons key rest ih =>
    rw [equipmentActions, Reported.result_bind, Reported.result_bind, Reported.result_pure,
      List.filterMap_append, ih, List.append_nil]
    exact filterMap_equipActions _ _

theorem filterMap_tagAction (v : Option Json) :
    (tagAction v).result.filterMap (adjustment? which) = [] := by
  unfold tagAction
  split
  · rfl
  · split <;> rfl

theorem filterMap_bodyActions :
    (bodyActions registry m).result.filterMap (adjustment? which) =
      (m.adjustment? which).toList := by
  have health := filterMap_adjustAction m which .maxHealth
  have speed := filterMap_adjustAction m which .movementSpeed
  have damage := filterMap_adjustAction m which .attackDamage
  dsimp only [EntityAttribute.keywords] at health speed damage
  have potions : (potionActions registry (m.getAll Keyword.potion)).result.filterMap
      (adjustment? which) = [] := filterMap_potionActions _
  unfold bodyActions
  simp only [Reported.result_bind, Reported.result_pure, List.filterMap_append, health, speed,
    damage, filterMap_sizeAction, potions, List.append_nil]
  cases which <;> simp

theorem filterMap_mannerActions :
    (mannerActions m).result.filterMap (adjustment? which) = [] := by
  have tags : (tagAction (m.get? Keyword.mobNbt)).result.filterMap (adjustment? which) = [] :=
    filterMap_tagAction _
  have anger : (angerActions (m.get? Keyword.angry)).filterMap (adjustment? which) = [] := by
    rcases (m.get? Keyword.angry : Option Bool) with _ | _ | _ <;> rfl
  have named : ((m.get? Keyword.customName : Option String).map customName).toList.filterMap
      (adjustment? which) = [] := by
    rcases (m.get? Keyword.customName : Option String) with _ | name <;> rfl
  have told : ((m.get? Keyword.message : Option String).map message).toList.filterMap
      (adjustment? which) = [] := by
    rcases (m.get? Keyword.message : Option String) with _ | text <;> rfl
  unfold mannerActions
  simp only [Reported.result_bind, Reported.result_pure, List.filterMap_append, anger, tags, named,
    told, List.append_nil]

/-- The actions of a document hold one adjustment of an attribute if the document asks for it, and
else none. -/
theorem filterMap_ofAttributes (registry : Registry) (m : AttributeMap) (which : EntityAttribute) :
    (ofAttributes registry m).result.filterMap (adjustment? which) =
      (m.adjustment? which).toList := by
  unfold ofAttributes
  simp only [Reported.result_bind, Reported.result_pure, List.filterMap_append,
    filterMap_bodyActions, filterMap_equipmentActions, filterMap_mannerActions, List.append_nil]

end Action

end EventRules
