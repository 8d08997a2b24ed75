/-
The actions of a document, read off the document as a whole: each keyword is looked up where it was
filed, and nothing is taken away. Compiling comes to the same, since no two actions share a keyword,
and takes all these keywords out of the document; only where the weights of some equipment have no
finite sum does it end in a fault. The actions depend on nothing in a document but the values under
their keywords, and on nothing of the host but its registry.
-/
import EventRules.Action.Compile
import EventRules.Proofs.Action.Weight
import EventRules.Proofs.Attribute.Map
import EventRules.Proofs.Problem

namespace EventRules.Action

open Keyword AttributeMap

variable {registry : Registry}

/-! ## Descriptions of equipment -/

section Descriptions

variable {descriptions : List Json}

/-- The stacks and weights of the descriptions that can be read. -/
def accepted (registry : Registry) (descriptions : List Json) : List (ItemStack × Single) :=
  descriptions.filterMap fun v => (weightedStack registry v).toOption

/-- What is wrong with a description. -/
def refusal? (registry : Registry) (v : Json) : Option Problem :=
  match weightedStack registry v with
  | .ok _ => none
  | .error p => some p

/-- One error for each description that cannot be read. -/
def refusals (registry : Registry) (descriptions : List Json) : List Report :=
  (descriptions.filterMap (refusal? registry)).map (Report.mk .error)

theorem weightedStacks_eq : weightedStacks registry descriptions =
    ⟨refusals registry descriptions, accepted registry descriptions⟩ := by
  induction descriptions with
  | nil => rfl
  | cons v rest ih =>
    have first : refusal? registry v = match weightedStack registry v with
      | .ok _ => none
      | .error p => some p := rfl
    rw [weightedStacks, ih]
    apply Reported.ext
    · unfold refusals
      rw [List.filterMap_cons, first]
      cases weightedStack registry v <;> simp
    · unfold accepted
      rw [List.filterMap_cons]
      cases weightedStack registry v <;> rfl

/-- The weights of the descriptions that can be read. -/
def weights (registry : Registry) (descriptions : List Json) : List Single :=
  (accepted registry descriptions).map (·.2)

/-- Compiling a list of descriptions ends in a fault exactly if its weights are endless. -/
theorem equipActions_eq_error_iff {slot : EquipmentSlot} {fault : Fault} :
    (equipActions registry slot descriptions).result = .error fault ↔
      fault = .endlessWeights ∧ WeightedChoice.Endless (weights registry descriptions) := by
  rw [weights, ← WeightedChoice.ofEntries_eq_error_iff, equipActions, weightedStacks_eq]
  show (ite _ _ _ : Reported _).result = _ ↔ _
  cases given : accepted registry descriptions with
  | nil => exact iff_of_false nofun nofun
  | cons e rest =>
    rw [if_neg (by simp)]
    rcases WeightedChoice.ofEntries (e :: rest) with other | _ | choice
    · exact ⟨fun h => congrArg Except.error (Except.error.inj h),
        fun h => congrArg Except.error (Except.error.inj h)⟩
    · exact iff_of_false nofun nofun
    · exact iff_of_false nofun nofun

end Descriptions

/-! ## Actions by their keywords -/

/-- The value of a keyword, or what stands for it when it is missing. -/
def valueOr {t : ValueType} (m : AttributeMap) (key : Key t) (default : t.Carrier) : t.Carrier :=
  (m.get? key).getD default

/-- The change of one attribute, if one of its three keywords is there. -/
def adjustAction (m : AttributeMap) (which : EntityAttribute) (set multiply add : Key .float) :
    List Action :=
  if m.contains set || m.contains multiply || m.contains add then
    [.adjust which (m.get? set) (valueOr m multiply (.one : Single))
      (valueOr m add (.zero false : Single))]
  else []

def sizeAction (m : AttributeMap) : List Action :=
  if m.contains sizeMultiply || m.contains sizeAdd then
    [.size (valueOr m sizeMultiply (.one : Single)) (valueOr m sizeAdd (.zero false : Single))]
  else []

/-- The equipment under some keywords, where none is at fault. -/
def equipmentActions (registry : Registry) (m : AttributeMap) :
    List (Key .json × EquipmentSlot) → Reported (List Action)
  | [] => pure []
  | (key, slot) :: rest => do
    let first ← equipActions registry slot (m.getAll key)
    let others ← equipmentActions registry m rest
    return first.toOption.getD [] ++ others

def bodyActions (registry : Registry) (m : AttributeMap) : Reported (List Action) := do
  let potions ← potionActions registry (m.getAll Keyword.potion)
  return adjustAction m .maxHealth healthSet healthMultiply healthAdd ++
    adjustAction m .movementSpeed speedSet speedMultiply speedAdd ++
    adjustAction m .attackDamage damageSet damageMultiply damageAdd ++ sizeAction m ++ potions

def mannerActions (m : AttributeMap) : Reported (List Action) := do
  let tags ← tagAction (m.get? mobNbt)
  let name : Option String := m.get? Keyword.customName
  let text : Option String := m.get? Keyword.message
  return angerActions (m.get? Keyword.angry) ++ tags ++ (name.map Action.customName).toList ++
    (text.map Action.message).toList

/-- The actions of a document, where no equipment is at fault. -/
def ofAttributes (registry : Registry) (m : AttributeMap) : Reported (List Action) := do
  let body ← bodyActions registry m
  let equipped ← equipmentActions registry m equipmentKeywords
  let manner ← mannerActions m
  return body ++ equipped ++ manner

def bodyKeywords : List String :=
  [healthSet, healthMultiply, healthAdd, speedSet, speedMultiply, speedAdd, damageSet,
      damageMultiply, damageAdd, sizeMultiply, sizeAdd].map Key.name ++ [Keyword.potion.name]

def mannerKeywords : List String :=
  [Keyword.angry.name, mobNbt.name, Keyword.customName.name, Keyword.message.name]

/-- The keywords of actions. -/
def keywords : List String :=
  bodyKeywords ++ equipmentKeywords.map (·.1.name) ++ mannerKeywords

/-- No list of equipment has endless weights. -/
def Calm (registry : Registry) (m : AttributeMap) : Prop :=
  ∀ e ∈ equipmentKeywords, ¬ WeightedChoice.Endless (weights registry (m.getAll e.1))

section Congruence

variable {m m' : AttributeMap}

theorem valueOr_congr {t : ValueType} {key : Key t}
    (h : m.values.get? key.name = m'.values.get? key.name) : valueOr m key = valueOr m' key := by
  funext default
  rw [valueOr, valueOr, get?_congr h]

theorem adjustAction_congr (which : EntityAttribute) {set multiply add : Key .float}
    (hs : m.values.get? set.name = m'.values.get? set.name)
    (hm : m.values.get? multiply.name = m'.values.get? multiply.name)
    (ha : m.values.get? add.name = m'.values.get? add.name) :
    adjustAction m which set multiply add = adjustAction m' which set multiply add := by
  rw [adjustAction, adjustAction, contains_congr hs, contains_congr hm, contains_congr ha,
    get?_congr hs, valueOr_congr hm, valueOr_congr ha]

theorem sizeAction_congr
    (hm : m.values.get? sizeMultiply.name = m'.values.get? sizeMultiply.name)
    (ha : m.values.get? sizeAdd.name = m'.values.get? sizeAdd.name) :
    sizeAction m = sizeAction m' := by
  rw [sizeAction, sizeAction, contains_congr hm, contains_congr ha, valueOr_congr hm,
    valueOr_congr ha]

theorem equipmentActions_congr (registry : Registry) :
    ∀ {keys : List (Key .json × EquipmentSlot)}, (∀ e ∈ keys, m.getAll e.1 = m'.getAll e.1) →
      equipmentActions registry m keys = equipmentActions registry m' keys
  | [], _ => rfl
  | (key, slot) :: rest, h => by
    obtain ⟨first, others⟩ := List.forall_mem_cons.1 h
    rw [equipmentActions, equipmentActions, first, equipmentActions_congr registry others]

theorem bodyActions_congr (agree : ∀ name ∈ bodyKeywords, m.values.get? name = m'.values.get? name) :
    bodyActions registry m = bodyActions registry m' := by
  have health := adjustAction_congr .maxHealth (agree healthSet.name (by decide))
    (agree healthMultiply.name (by decide)) (agree healthAdd.name (by decide))
  have speed := adjustAction_congr .movementSpeed (agree speedSet.name (by decide))
    (agree speedMultiply.name (by decide)) (agree speedAdd.name (by decide))
  have damage := adjustAction_congr .attackDamage (agree damageSet.name (by decide))
    (agree damageMultiply.name (by decide)) (agree damageAdd.name (by decide))
  have size := sizeAction_congr (agree sizeMultiply.name (by decide))
    (agree sizeAdd.name (by decide))
  unfold bodyActions
  rw [health, speed, damage, size, getAll_congr (agree Keyword.potion.name (by decide))]

theorem mannerActions_congr
    (agree : ∀ name ∈ mannerKeywords, m.values.get? name = m'.values.get? name) :
    mannerActions m = mannerActions m' := by
  unfold mannerActions
  rw [get?_congr (agree Keyword.angry.name (by decide)),
    get?_congr (agree mobNbt.name (by decide)),
    get?_congr (agree Keyword.customName.name (by decide)),
    get?_congr (agree Keyword.message.name (by decide))]

/-- Documents that agree under the keywords of actions, where of equipment only what can be read
counts. -/
structure Agree (m m' : AttributeMap) : Prop where
  body : ∀ name ∈ bodyKeywords, m.values.get? name = m'.values.get? name
  equipment : ∀ e ∈ equipmentKeywords, m.getAll e.1 = m'.getAll e.1
  manner : ∀ name ∈ mannerKeywords, m.values.get? name = m'.values.get? name

theorem agree_of_values (h : ∀ name ∈ keywords, m.values.get? name = m'.values.get? name) :
    Agree m m' where
  body name hn := h name (List.mem_append_left _ (List.mem_append_left _ hn))
  equipment e he := getAll_congr <|
    h e.1.name ((by decide : ∀ e ∈ equipmentKeywords, e.1.name ∈ keywords) e he)
  manner name hn := h name (List.mem_append_right _ hn)

theorem Agree.symm (h : Agree m m') : Agree m' m where
  body name hn := (h.body name hn).symm
  equipment e he := (h.equipment e he).symm
  manner name hn := (h.manner name hn).symm

/-- Such documents give the same actions. -/
theorem Agree.ofAttributes (h : Agree m m') (registry : Registry) :
    ofAttributes registry m = ofAttributes registry m' := by
  unfold Action.ofAttributes
  rw [bodyActions_congr h.body, equipmentActions_congr registry h.equipment,
    mannerActions_congr h.manner]

theorem Agree.calm (h : Agree m m') (calm : Calm registry m) : Calm registry m' := by
  intro e he
  rw [← h.equipment e he]
  exact calm e he

end Congruence

/-! ## Compiling -/

section Compiling

variable {m : AttributeMap} {names : List String}

theorem compileAdjust_eq (which : EntityAttribute) {set multiply add : Key .float}
    (hm : multiply.name ≠ set.name) (hs : add.name ≠ set.name) (ha : add.name ≠ multiply.name) :
    compileAdjust which set multiply add m =
      (adjustAction m which set multiply add,
        m.dropAll [set.name, multiply.name, add.name]) := by
  have factor : valueOr (m.drop set.name) multiply = valueOr m multiply :=
    valueOr_congr (by rw [values_drop, if_neg hm])
  have offset : valueOr ((m.drop set.name).drop multiply.name) add = valueOr m add :=
    valueOr_congr (by rw [values_drop, if_neg ha, values_drop, if_neg hs])
  unfold compileAdjust adjustAction
  split
  · show ([Action.adjust which (m.get? set) (valueOr (m.drop set.name) multiply _)
      (valueOr ((m.drop set.name).drop multiply.name) add _)], _) = _
    rw [factor, offset]
    rfl
  · rename_i missing
    refine congrArg _ (dropAll_of_absent ?_).symm
    simpa [contains, Dict.contains, and_assoc] using missing

theorem compileSize_eq :
    compileSize m = (sizeAction m, m.dropAll [sizeMultiply.name, sizeAdd.name]) := by
  have offset : valueOr (m.drop sizeMultiply.name) sizeAdd = valueOr m sizeAdd :=
    valueOr_congr (by rw [values_drop, if_neg (by decide)])
  unfold compileSize sizeAction
  split
  · show ([Action.size (valueOr m sizeMultiply _)
      (valueOr (m.drop sizeMultiply.name) sizeAdd _)], _) = _
    rw [offset]
    rfl
  · rename_i missing
    refine congrArg _ (dropAll_of_absent ?_).symm
    simpa [contains, Dict.contains] using missing

theorem compileEquipment_cons (registry : Registry) (key : Key .json) (slot : EquipmentSlot)
    (rest : List (Key .json × EquipmentSlot)) (m : AttributeMap) :
    compileEquipment registry ((key, slot) :: rest) m =
      equipActions registry slot (m.getAll key) >>= fun made =>
        match made with
        | .error fault => pure (.error fault)
        | .ok first => compileEquipment registry rest (m.drop key.name) >>= fun others =>
          pure (others.map fun (others, m) => (first ++ others, m)) := by
  rw [← takeAll_getD]
  rfl

section Equipment

variable {key : Key .json} {slot : EquipmentSlot} {rest : List (Key .json × EquipmentSlot)}

/-- An equipment keyword is taken, and the others are still there. -/
theorem getAll_rest (apart : (((key, slot) :: rest).map (·.1.name)).Nodup) :
    ∀ e ∈ rest, (m.drop key.name).getAll e.1 = m.getAll e.1 := by
  rw [List.map_cons, List.nodup_cons] at apart
  intro e he
  refine getAll_congr ?_
  rw [values_drop, if_neg fun h => apart.1 (List.mem_map.2 ⟨e, he, h⟩)]

theorem exists_equipActions {descriptions : List Json}
    (calm : ¬ WeightedChoice.Endless (weights registry descriptions)) (slot : EquipmentSlot) :
    ∃ first, (equipActions registry slot descriptions).result = .ok first := by
  rcases made : (equipActions registry slot descriptions).result with fault | first
  · exact absurd (equipActions_eq_error_iff.1 made).2 calm
  · exact ⟨first, rfl⟩

end Equipment

theorem compileEquipment_eq (registry : Registry) :
    ∀ {keys : List (Key .json × EquipmentSlot)} (m : AttributeMap),
      (keys.map (·.1.name)).Nodup →
      (∀ e ∈ keys, ¬ WeightedChoice.Endless (weights registry (m.getAll e.1))) →
        compileEquipment registry keys m =
          ⟨(equipmentActions registry m keys).reports,
            .ok ((equipmentActions registry m keys).result, m.dropAll (keys.map (·.1.name)))⟩
  | [], _, _, _ => rfl
  | (key, slot) :: rest, m, apart, calm => by
    obtain ⟨own, others⟩ := List.forall_mem_cons.1 calm
    obtain ⟨first, made⟩ := exists_equipActions own slot
    have same := getAll_rest (m := m) apart
    have ih := compileEquipment_eq registry (m.drop key.name) (List.nodup_cons.1 apart).2
      fun e he => by
        rw [same e he]
        exact others e he
    rw [equipmentActions_congr registry same] at ih
    rw [compileEquipment_cons, equipmentActions]
    refine Reported.ext ?_ ?_
    · rw [Reported.reports_bind, Reported.reports_bind, made]
      dsimp only
      rw [Reported.reports_bind, Reported.reports_bind, ih]
      rfl
    · rw [Reported.result_bind, Reported.result_bind, made]
      dsimp only
      rw [Reported.result_bind, Reported.result_bind, ih]
      rfl

theorem compileEquipment_fault (registry : Registry) :
    ∀ {keys : List (Key .json × EquipmentSlot)} (m : AttributeMap),
      (keys.map (·.1.name)).Nodup →
      (∃ e ∈ keys, WeightedChoice.Endless (weights registry (m.getAll e.1))) →
        (compileEquipment registry keys m).result = .error .endlessWeights
  | [], _, _, endless => by
    obtain ⟨e, he, -⟩ := endless
    cases he
  | (key, slot) :: rest, m, apart, endless => by
    rw [compileEquipment_cons, Reported.result_bind]
    by_cases own : WeightedChoice.Endless (weights registry (m.getAll key))
    · rw [equipActions_eq_error_iff.2 ⟨rfl, own⟩]
      rfl
    · obtain ⟨first, made⟩ := exists_equipActions own slot
      have others : ∃ e ∈ rest,
          WeightedChoice.Endless (weights registry ((m.drop key.name).getAll e.1)) := by
        obtain ⟨e, he, endless⟩ := endless
        rcases List.mem_cons.1 he with rfl | he
        · exact absurd endless own
        · refine ⟨e, he, ?_⟩
          rwa [getAll_rest apart e he]
      rw [made]
      dsimp only
      rw [Reported.result_bind,
        compileEquipment_fault registry (m.drop key.name) (List.nodup_cons.1 apart).2 others]
      rfl

theorem adjustAction_dropAll (which : EntityAttribute) {set multiply add : Key .float}
    (hs : set.name ∉ names) (hm : multiply.name ∉ names) (ha : add.name ∉ names) :
    adjustAction (m.dropAll names) which set multiply add =
      adjustAction m which set multiply add :=
  adjustAction_congr which (m.values_dropAll_of_not_mem hs) (m.values_dropAll_of_not_mem hm)
    (m.values_dropAll_of_not_mem ha)

theorem sizeAction_dropAll (hm : sizeMultiply.name ∉ names) (ha : sizeAdd.name ∉ names) :
    sizeAction (m.dropAll names) = sizeAction m :=
  sizeAction_congr (m.values_dropAll_of_not_mem hm) (m.values_dropAll_of_not_mem ha)

theorem compileBody_eq :
    compileBody registry m =
      ⟨(bodyActions registry m).reports,
        ((bodyActions registry m).result, m.dropAll bodyKeywords)⟩ := by
  unfold compileBody bodyActions
  rw [compileAdjust_eq .maxHealth (by decide) (by decide) (by decide)]
  dsimp only
  rw [compileAdjust_eq .movementSpeed (by decide) (by decide) (by decide)]
  dsimp only
  rw [compileAdjust_eq .attackDamage (by decide) (by decide) (by decide)]
  dsimp only
  rw [compileSize_eq]
  dsimp only
  simp only [← dropAll_append]
  -- none of the keywords is taken before its turn
  rw [takeAll_getD, adjustAction_dropAll .movementSpeed (by decide) (by decide) (by decide),
    adjustAction_dropAll .attackDamage (by decide) (by decide) (by decide),
    sizeAction_dropAll (by decide) (by decide), getAll_dropAll (by decide)]
  rfl

theorem compileManner_eq :
    compileManner m =
      ⟨(mannerActions m).reports, ((mannerActions m).result, m.dropAll mannerKeywords)⟩ := by
  unfold compileManner mannerActions
  simp only [take_eq, ← dropAll_append]
  rw [get?_dropAll (by decide), get?_dropAll (by decide), get?_dropAll (by decide)]
  rfl

/-! ## All actions -/

/-- The equipment is still there when its turn comes. -/
theorem getAll_equipment (m : AttributeMap) :
    ∀ e ∈ equipmentKeywords, (m.dropAll bodyKeywords).getAll e.1 = m.getAll e.1 := fun e he =>
  m.getAll_dropAll ((by decide : ∀ e ∈ equipmentKeywords, e.1.name ∉ bodyKeywords) e he)

/-- Without endless weights compiling gives the actions of the document and takes their keywords. -/
theorem compile_of_calm (calm : Calm registry m) :
    compile registry m =
      ⟨(ofAttributes registry m).reports,
        .ok ((ofAttributes registry m).result, m.dropAll keywords)⟩ := by
  have equipped := compileEquipment_eq registry (m.dropAll bodyKeywords)
    (by decide : (equipmentKeywords.map (·.1.name)).Nodup) fun e he => by
      rw [getAll_equipment m e he]
      exact calm e he
  rw [equipmentActions_congr registry (getAll_equipment m), ← dropAll_append] at equipped
  have manner : mannerActions (m.dropAll (bodyKeywords ++ equipmentKeywords.map (·.1.name))) =
      mannerActions m :=
    mannerActions_congr fun name hn => m.values_dropAll_of_not_mem <|
      (by decide : ∀ name ∈ mannerKeywords,
        name ∉ bodyKeywords ++ equipmentKeywords.map (·.1.name)) name hn
  rw [compile, compileBody_eq, ofAttributes]
  refine Reported.ext ?_ ?_
  · rw [Reported.reports_bind, Reported.reports_bind, Reported.reports_bind]
    dsimp only
    rw [equipped]
    dsimp only
    rw [Reported.reports_bind, compileManner_eq, manner, Reported.reports_bind]
    rfl
  · rw [Reported.result_bind, Reported.result_bind, Reported.result_bind]
    dsimp only
    rw [equipped]
    dsimp only
    rw [Reported.result_bind, compileManner_eq, manner, ← dropAll_append]
    rfl

/-- Endless weights end it all. -/
theorem compile_of_not_calm (endless : ¬Calm registry m) :
    (compile registry m).result = .error .endlessWeights := by
  simp only [Calm, not_forall, not_not, exists_prop] at endless
  have fault := compileEquipment_fault registry (m.dropAll bodyKeywords)
    (by decide : (equipmentKeywords.map (·.1.name)).Nodup) <| by
      obtain ⟨e, he, endless⟩ := endless
      refine ⟨e, he, ?_⟩
      rwa [getAll_equipment m e he]
  rw [compile, compileBody_eq, Reported.result_bind, Reported.result_bind]
  dsimp only
  rw [fault]
  rfl

end Compiling

end EventRules.Action
