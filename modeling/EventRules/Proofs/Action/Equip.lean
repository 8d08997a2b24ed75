/-
Weighted equipment. The descriptions that can be read are kept together with their weights, and
every other one is reported. If the weights allow a choice the action equips, for every random word,
the stack of a description that was read, and one with a positive weight as long as the drawn point
is below the sum of the weights.
-/
import EventRules.Action.Compile
import EventRules.Proofs.Action.Draw
import EventRules.Proofs.Action.Weight
import EventRules.Proofs.Problem
import EventRules.Proofs.Rule.Kind

namespace EventRules.Action

variable {registry : Registry} {descriptions : List Json}

/-! ## Weights of descriptions -/

theorem inFormat_weightField {v : Option Json} {w : Single} (h : weightField v = some w) :
    w.InFormat := by
  unfold weightField at h
  split at h
  · cases h
    exact (Binary.rounds_ofInt 1).inFormat
  · cases h
    exact (Binary.rounds_ofInt _).inFormat
  · rename_i x
    cases h
    exact Binary.inFormat_convert x
  · cases h

theorem inFormat_ofMembers {members : List (String × Json)} {item : WeightedItem}
    (h : WeightedItem.ofMembers members = some item) : item.weight.InFormat := by
  simp only [WeightedItem.ofMembers, bind, pure, Option.bind_eq_some_iff] at h
  obtain ⟨_, _, _, _, w, weight, _, _, made⟩ := h
  cases made
  exact inFormat_weightField weight

theorem inFormat_weightedStack {v : Json} {e : ItemStack × Single}
    (h : weightedStack registry v = .ok e) : e.2.InFormat := by
  unfold weightedStack at h
  split at h
  · obtain ⟨s, -, rfl⟩ := exists_of_map h
    exact (Binary.rounds_ofInt 1).inFormat
  · split at h
    · cases h
    · rename_i read
      obtain ⟨s, -, rfl⟩ := exists_of_map h
      exact inFormat_ofMembers read
  · cases h

/-! ## Lists of descriptions -/

theorem mem_accepted {e : ItemStack × Single} (h : e ∈ accepted registry descriptions) :
    ∃ v ∈ descriptions, weightedStack registry v = .ok e := by
  obtain ⟨v, hv, read⟩ := List.mem_filterMap.1 h
  refine ⟨v, hv, ?_⟩
  cases made : weightedStack registry v with
  | error p =>
    rw [made] at read
    cases read
  | ok e' =>
    rw [made] at read
    cases read
    rfl

theorem inFormat_accepted : ∀ w ∈ (accepted registry descriptions).map (·.2), w.InFormat := by
  intro w hw
  obtain ⟨e, he, rfl⟩ := List.mem_map.1 hw
  obtain ⟨v, -, read⟩ := mem_accepted he
  exact inFormat_weightedStack read

/-! ## Compiled actions -/

/-- What is reported of a list whose weights are refused. -/
def refusedWeights (descriptions : List Json) : List Report :=
  [⟨.error, .badItemDescription (Json.array descriptions).print⟩]

/-- The choice among the descriptions that can be read. -/
def choice (registry : Registry) (descriptions : List Json) : WeightedChoice ItemStack :=
  ⟨accepted registry descriptions⟩

theorem accepted_ne_nil (choosable : WeightedChoice.Choosable (weights registry descriptions)) :
    accepted registry descriptions ≠ [] := by
  obtain ⟨w, hw, -⟩ := choosable.positive
  obtain ⟨e, he, -⟩ := List.mem_map.1 hw
  exact List.ne_nil_of_mem he

theorem equipActions_of_choosable (slot : EquipmentSlot)
    (finite : (choice registry descriptions).total.isFinite = true)
    (choosable : WeightedChoice.Choosable (weights registry descriptions)) :
    equipActions registry slot descriptions =
      ⟨refusals registry descriptions, .ok [.equip slot (choice registry descriptions)]⟩ := by
  have given := accepted_ne_nil choosable
  have chosen := WeightedChoice.ofEntries_of_choosable inFormat_accepted finite choosable
  rw [equipActions, weightedStacks_eq]
  apply Reported.ext <;> simp [given, chosen, choice]

theorem equipActions_of_not_choosable (slot : EquipmentSlot)
    (finite : (choice registry descriptions).total.isFinite = true)
    (refused : ¬ WeightedChoice.Choosable (weights registry descriptions)) :
    equipActions registry slot descriptions =
      ⟨refusals registry descriptions ++
        if accepted registry descriptions = [] then [] else refusedWeights descriptions,
        .ok []⟩ := by
  rw [equipActions, weightedStacks_eq]
  by_cases none : accepted registry descriptions = []
  · apply Reported.ext <;> simp [none]
  · have refused := WeightedChoice.ofEntries_of_not_choosable inFormat_accepted finite refused
    apply Reported.ext <;> simp [none, refused, refusedWeights]

/-! ## Equipped stacks -/

theorem changes_equip (slot : EquipmentSlot) {c : WeightedChoice ItemStack} {s : ItemStack}
    {t : Target} {l : LivingEntity} {g : Generator} (living : t.living = some l)
    (chosen : c.choose? (g.word g.drawn) = some s) :
    (Action.equip slot c).changes t g = ([.equip slot s], g.skip 1) := by
  unfold changes
  rw [living]
  show changesOn l (.equip slot c) g = _
  rw [changesOn, g.next_eq]
  dsimp only
  rw [chosen]

theorem weighs_weights (finite : (choice registry descriptions).total.isFinite = true)
    (choosable : WeightedChoice.Choosable (weights registry descriptions)) :
    ∀ w ∈ weights registry descriptions, ∃ a, Weighs w a := fun w hw =>
  WeightedChoice.weighs_of_finite (inFormat_accepted w hw)
    (WeightedChoice.finite_of_cumulative finite w hw) (choosable.nonneg w hw)

/-- Weighted equipment: every description that cannot be read is reported, once. If none of the
other weights is negative and one is positive there is one action, and else none, with one more
error if there are weights at all. The action equips a living target with the stack of a description
that was read, whatever word is drawn, and the weight of that description is positive if the drawn
point is below the sum of the weights. -/
theorem equip_chooses_positive (registry : Registry) (slot : EquipmentSlot)
    (descriptions : List Json) (finite : (choice registry descriptions).total.isFinite = true) :
    ((WeightedChoice.Choosable (weights registry descriptions) ∧
        equipActions registry slot descriptions =
          ⟨refusals registry descriptions, .ok [.equip slot (choice registry descriptions)]⟩) ∨
      (¬ WeightedChoice.Choosable (weights registry descriptions) ∧
        equipActions registry slot descriptions = ⟨refusals registry descriptions ++
          if accepted registry descriptions = [] then [] else refusedWeights descriptions, .ok []⟩)) ∧
    ∀ actions, (equipActions registry slot descriptions).result = .ok actions →
      ∀ action ∈ actions, ∀ (t : Target) (l : LivingEntity) (g : Generator),
        t.living = some l → ∃ v ∈ descriptions, ∃ s w, weightedStack registry v = .ok (s, w) ∧
          action.changes t g = ([.equip slot s], g.skip 1) ∧
          (((choice registry descriptions).point (g.word g.drawn)).lt
              (choice registry descriptions).total = true →
            (Binary.zero false).lt w = true) := by
  by_cases choosable : WeightedChoice.Choosable (weights registry descriptions)
  · have compiled := equipActions_of_choosable slot finite choosable
    refine ⟨.inl ⟨choosable, compiled⟩, fun actions made action hm t l g living => ?_⟩
    rw [compiled] at made
    cases made
    cases List.mem_singleton.1 hm
    obtain ⟨e, he, chosen, positive⟩ := (choice registry descriptions).exists_chosen
      (accepted_ne_nil choosable) (weighs_weights finite choosable) finite (g.word g.drawn)
    obtain ⟨v, hv, read⟩ := mem_accepted he
    exact ⟨v, hv, e.1, e.2, read, changes_equip slot living chosen, positive⟩
  · have compiled := equipActions_of_not_choosable slot finite choosable
    refine ⟨.inr ⟨choosable, compiled⟩, fun actions made action hm => ?_⟩
    rw [compiled] at made
    cases made
    cases hm

/-- An item with a weight. -/
def weighed (item : String) (weight : Int) : Json :=
  .object [("item", .string item), ("weight", .number (.integer weight))]

/-- A bow between things that are never chosen and one that cannot be read. -/
def quiver : List Json := [weighed "arrow" 0, .null, weighed "bow" 3, weighed "stick" 0]

theorem equip_chooses_positive_bow :
    ∃ action, equipActions Host.bare.registry .mainHand quiver =
        ⟨[⟨.error, .badItemDescription "null"⟩], .ok [action]⟩ ∧
      ∀ (t : Target) (l : LivingEntity) (g : Generator), t.living = some l →
        ∃ s, action.changes t g = ([.equip .mainHand s], g.skip 1) ∧ s.item = .parse "bow" := by
  have total : (choice Host.bare.registry quiver).total = .finite false 12582912 (-22) := by
    decide +kernel
  have three : Weighs (choice Host.bare.registry quiver).total 3 := by
    rw [total]
    refine ⟨⟨by decide, by decide, by decide⟩, ?_, by norm_num⟩
    rw [Binary.value?, Binary.signed, if_neg Bool.false_ne_true]
    norm_num
  have finite := Binary.isFinite_iff.2 ⟨3, three.value⟩
  have bow : ∀ v ∈ quiver, ∀ e, weightedStack Host.bare.registry v = .ok e →
      (Binary.zero false).lt e.2 = true → e.1.item = .parse "bow" := by
    have check : ∀ v ∈ quiver, (weightedStack Host.bare.registry v).toOption.all
        (fun e => !(Binary.zero false).lt e.2 || e.1.item == .parse "bow") = true := by
      decide +kernel
    intro v hv e read positive
    have item := check v hv
    rw [read] at item
    simpa [Except.toOption, positive] using item
  have choosable : WeightedChoice.Choosable (weights Host.bare.registry quiver) :=
    ⟨by decide +kernel, by decide +kernel⟩
  obtain ⟨compiled, equips⟩ := equip_chooses_positive Host.bare.registry .mainHand quiver finite
  rcases compiled with ⟨-, compiled⟩ | ⟨refused, -⟩
  · refine ⟨_, compiled.trans (Reported.ext (by decide +kernel) rfl), fun t l g living => ?_⟩
    rw [compiled] at equips
    obtain ⟨v, hv, s, w, read, made, positive⟩ := equips _ rfl _ List.mem_cons_self t l g living
    refine ⟨s, made, bow v hv (s, w) read (positive ?_)⟩
    exact WeightedChoice.point_lt_total three (by norm_num) _
  · exact absurd choosable refused

end EventRules.Action
