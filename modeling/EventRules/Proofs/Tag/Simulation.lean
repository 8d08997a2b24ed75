/-
Which changes of a compound no condition on it can tell to its disadvantage. A condition reads the
integers under names and looks for compounds in lists; so a compound may take the place of another
if it has the same names, the same integers, and in each list for every compound one that may take
its place in turn. This is a simulation of trees: it is met by putting the elements of lists, at any
depth, in another order, by repeating and adding some, and by leaving out those that are no
compounds.
-/
import EventRules.Tag.Matcher
import EventRules.Proofs.Dict
import EventRules.Proofs.Tag.Equality
import Mathlib.Logic.Relation

namespace EventRules

/-! ## Simulation -/

/-- How a tag may follow another, the compounds in lists being related by `R`: it is equal, or both
are compounds, or both are lists and every compound of the first is related to some of the
second. -/
inductive Tag.Follows (R : Compound → Compound → Prop) : Tag → Tag → Prop
  | equal (t : Tag) : Follows R t t
  | same {t t' : Tag} (h : t.same t' = true) : Follows R t t'
  | compounds (c c' : Compound) : Follows R (.compound c) (.compound c')
  | lists {items items' : List Tag}
    (h : ∀ c, .compound c ∈ items → ∃ c', .compound c' ∈ items' ∧ R c c') :
    Follows R (.list items) (.list items')

theorem Tag.Follows.mono {R S : Compound → Compound → Prop} {t t' : Tag} (h : Follows R t t')
    (imp : ∀ a b, R a b → S a b) : Follows S t t' := by
  cases h with
  | equal => exact .equal _
  | same h => exact .same h
  | compounds => exact .compounds _ _
  | lists h =>
    refine .lists fun c there => ?_
    obtain ⟨c', there', related⟩ := h c there
    exact ⟨c', there', imp c c' related⟩

namespace Compound

variable {c c' : Compound} {key : String}

/-- Both compounds have the same names, and under each the tag of the second follows that of the
first. -/
def Mirrors (R : Compound → Compound → Prop) (c c' : Compound) : Prop :=
  ∀ key, Option.Rel (Tag.Follows R) (Entries.find? key c) (Entries.find? key c')

theorem Mirrors.mono {R S : Compound → Compound → Prop} (h : Mirrors R c c')
    (imp : ∀ a b, R a b → S a b) : Mirrors S c c' := fun key =>
  match Entries.find? key c, Entries.find? key c', h key with
  | _, _, .none => .none
  | _, _, .some follows => .some (follows.mono imp)

/-- Some relation holds of the two compounds under which every pair mirrors each other. -/
def Simulates (c' c : Compound) : Prop :=
  ∃ R : Compound → Compound → Prop, (∀ a b, R a b → Mirrors R a b) ∧ R c c'

/-- A compound simulates another if both have the same names and the tags follow, where a compound
in a list is followed by one that simulates it. -/
theorem simulates_iff : c'.Simulates c ↔ Mirrors (fun a b => b.Simulates a) c c' := by
  have unfolded {a b : Compound} (h : b.Simulates a) : Mirrors (fun a b => b.Simulates a) a b := by
    obtain ⟨R, kept, related⟩ := h
    exact (kept a b related).mono fun a b related => ⟨R, kept, related⟩
  refine ⟨unfolded, fun h => ⟨Mirrors fun a b => b.Simulates a, fun a b mirrors => ?_, h⟩⟩
  exact mirrors.mono fun a b => unfolded

theorem Simulates.refl (c : Compound) : c.Simulates c := by
  refine ⟨Eq, ?_, rfl⟩
  rintro a _ rfl key
  rcases Entries.find? key a with _ | t
  · exact .none
  · exact .some (.equal t)

/-- Equal compounds simulate each other. -/
theorem simulates_of_same (h : Compound.same c c' = true) : c'.Simulates c :=
  ⟨fun a b => Compound.same a b = true, fun a b equal key =>
    match Entries.find? key a, Entries.find? key b, find?_of_same key equal with
    | _, _, .none => .none
    | _, _, .some equal => .some (.same equal), h⟩

/-! ## What a condition reads -/

theorem mem_compounds_of_list {items : List Tag} (filed : Entries.find? key c = some (.list items))
    {e : Compound} : e ∈ c.compounds key ↔ .compound e ∈ items := by
  rw [compounds, filed, List.mem_filterMap]
  constructor
  · rintro ⟨t, there, is_compound⟩
    cases t <;> cases is_compound
    exact there
  · intro there
    exact ⟨_, there, rfl⟩

/-- Only a list has compounds in it. -/
theorem list_of_mem_compounds {e : Compound} (h : e ∈ c.compounds key) :
    ∃ items, Entries.find? key c = some (.list items) ∧ .compound e ∈ items := by
  have there := h
  unfold compounds at h
  split at h
  · rename_i items filed
    exact ⟨items, filed, (mem_compounds_of_list filed).1 there⟩
  · cases h

theorem Simulates.int_eq (h : c'.Simulates c) (key : String) : c'.int key = c.int key := by
  have follows := simulates_iff.1 h key
  unfold int
  revert follows
  rcases Entries.find? key c with _ | t <;> rcases Entries.find? key c' with _ | t'
  · exact fun _ => rfl
  · nofun
  · nofun
  · rintro ⟨follows⟩
    cases follows with
    | equal => rfl
    | same equal => rw [Option.bind_some, Option.bind_some, Tag.int?_of_same equal]
    | compounds => rfl
    | lists => rfl

theorem Simulates.exists_of_mem_compounds (h : c'.Simulates c) {e : Compound}
    (there : e ∈ c.compounds key) : ∃ e' ∈ c'.compounds key, e'.Simulates e := by
  obtain ⟨items, filed, there⟩ := list_of_mem_compounds there
  have follows := simulates_iff.1 h key
  rw [filed] at follows
  generalize filed' : Entries.find? key c' = t' at follows
  cases follows with
  | some follows =>
    cases follows with
    | equal => exact ⟨e, (mem_compounds_of_list filed').2 there, .refl e⟩
    | same equal =>
      obtain ⟨items', rfl, equal⟩ := Tag.same_list equal
      obtain ⟨t', there', equal⟩ := Tag.exists_same_of_mem equal _ there
      obtain ⟨e', rfl, equal⟩ := Tag.same_compound equal
      exact ⟨e', (mem_compounds_of_list filed').2 there', simulates_of_same equal⟩
    | lists h =>
      obtain ⟨e', there', simulates⟩ := h e there
      exact ⟨e', (mem_compounds_of_list filed').2 there', simulates⟩

end Compound

/-! ## Conditions -/

namespace TagMatcher

variable {c c' : Compound}

mutual

/-- What is accepted may be replaced by what simulates it; the induction is on the condition, which
goes down into the compounds of a list as far as it is nested itself. -/
theorem accepts_of_simulates : ∀ (m : TagMatcher) {c c' : Compound}, c'.Simulates c →
    m.accepts c = true → m.accepts c' = true
  | .value tag expr, c, c', h, accepted => by
    rw [accepts, h.int_eq tag]
    exact accepted
  | .contains tag matchers, c, c', h, accepted => by
    rw [accepts, List.any_eq_true] at accepted ⊢
    obtain ⟨e, there, accepted⟩ := accepted
    obtain ⟨e', there', simulates⟩ := h.exists_of_mem_compounds there
    exact ⟨e', there', allAccept_of_simulates matchers simulates accepted⟩

theorem allAccept_of_simulates : ∀ (ms : List TagMatcher) {c c' : Compound}, c'.Simulates c →
    allAccept ms c = true → allAccept ms c' = true
  | [], _, _, _, _ => rfl
  | m :: rest, c, c', h, accepted => by
    rw [allAccept, Bool.and_eq_true_iff] at accepted ⊢
    exact ⟨accepts_of_simulates m h accepted.1, allAccept_of_simulates rest h accepted.2⟩

end

end TagMatcher

/-! ## Changes of lists -/

mutual

/-- One change of a list somewhere in a tag. -/
inductive Tag.Edited : Tag → Tag → Prop
  | list {items items' : List Tag} (h : Tag.ItemsEdited items items') :
    Tag.Edited (.list items) (.list items')
  | compound {c c' : Compound} (h : Compound.Edited c c') :
    Tag.Edited (.compound c) (.compound c')

/-- One change of a list: its elements are put in another order, one is repeated, some are appended,
one that is no compound is added or removed, or one of them is changed itself. -/
inductive Tag.ItemsEdited : List Tag → List Tag → Prop
  | permuted {items items' : List Tag} (h : items.Perm items') : Tag.ItemsEdited items items'
  | repeated (before after : List Tag) {t : Tag} (there : t ∈ before ++ after) :
    Tag.ItemsEdited (before ++ after) (before ++ t :: after)
  | appended (items more : List Tag) : Tag.ItemsEdited items (items ++ more)
  | added (before after : List Tag) {t : Tag} (other : t.compound? = none) :
    Tag.ItemsEdited (before ++ after) (before ++ t :: after)
  | removed (before after : List Tag) {t : Tag} (other : t.compound? = none) :
    Tag.ItemsEdited (before ++ t :: after) (before ++ after)
  | inside (before after : List Tag) {t t' : Tag} (h : Tag.Edited t t') :
    Tag.ItemsEdited (before ++ t :: after) (before ++ t' :: after)

/-- One change of a list somewhere in a compound. -/
inductive Compound.Edited : Compound → Compound → Prop
  | under {c : Compound} (key : String) {t t' : Tag} (filed : Entries.find? key c = some t)
    (h : Tag.Edited t t') : Compound.Edited c (Entries.insert key t' c)

end

/-- Every compound of a list has one in a changed list that simulates it. -/
def Tag.Kept (items items' : List Tag) : Prop :=
  ∀ c : Compound, .compound c ∈ items → ∃ c' : Compound, .compound c' ∈ items' ∧ c'.Simulates c

theorem Tag.kept_of_subset {items items' : List Tag}
    (h : ∀ c : Compound, .compound c ∈ items → .compound c ∈ items') : Kept items items' :=
  fun c there => ⟨c, h c there, .refl c⟩

theorem Tag.kept_of_inserted (before after : List Tag) (t : Tag) :
    Kept (before ++ after) (before ++ t :: after) := kept_of_subset fun c there => by
  simp only [List.mem_append, List.mem_cons] at there ⊢
  exact there.imp_right .inr

mutual

theorem Tag.follows_of_edited : ∀ {t t' : Tag}, Tag.Edited t t' →
    Tag.Follows (fun a b => b.Simulates a) t t'
  | _, _, .list h => .lists (Tag.kept_of_edited h)
  | _, _, .compound _ => .compounds _ _

theorem Tag.kept_of_edited : ∀ {items items' : List Tag}, Tag.ItemsEdited items items' →
    Tag.Kept items items'
  | _, _, .permuted h => Tag.kept_of_subset fun _ there => h.mem_iff.1 there
  | _, _, .repeated before after _ => Tag.kept_of_inserted before after _
  | _, _, .appended items more => Tag.kept_of_subset fun c there => List.mem_append_left _ there
  | _, _, .added before after _ => Tag.kept_of_inserted before after _
  | _, _, .removed before after other => Tag.kept_of_subset fun c there => by
    simp only [List.mem_append, List.mem_cons] at there ⊢
    rcases there with there | rfl | there
    · exact .inl there
    · cases other
    · exact .inr there
  | _, _, .inside before after (.list _) => Tag.kept_of_subset fun c there => by
    simpa only [List.mem_append, List.mem_cons, reduceCtorEq] using there
  | _, _, .inside before after (.compound h) => fun c there => by
    have changed := Compound.simulates_of_edited h
    simp only [List.mem_append, List.mem_cons, Tag.compound.injEq] at there ⊢
    rcases there with there | rfl | there
    · exact ⟨c, .inl there, .refl c⟩
    · exact ⟨_, .inr (.inl rfl), changed⟩
    · exact ⟨c, .inr (.inr there), .refl c⟩

theorem Compound.simulates_of_edited : ∀ {c c' : Compound}, Compound.Edited c c' → c'.Simulates c
  | c, _, .under key filed h => by
    refine Compound.simulates_iff.2 fun name => ?_
    rw [Entries.find?_insert]
    split
    · rename_i same
      rw [← same, filed]
      exact .some (Tag.follows_of_edited h)
    · exact Compound.simulates_iff.1 (.refl c) name

end

/-! ## Acceptance -/

namespace TagMatcher

theorem accepts_of_edits (m : TagMatcher) {c c' : Compound}
    (h : Relation.ReflTransGen Compound.Edited c c') (accepted : m.accepts c = true) :
    m.accepts c' = true := by
  induction h with
  | refl => exact accepted
  | tail _ edited ih => exact accepts_of_simulates m (Compound.simulates_of_edited edited) ih

/-- What satisfies a condition goes on to satisfy it as something that simulates it, and through any
number of changes of the lists in it. -/
theorem simulation_keeps_test (m : TagMatcher) :
    (∀ c c' : Compound, c'.Simulates c → m.test (some c) = true → m.test (some c') = true) ∧
    ∀ c c' : Compound, Relation.ReflTransGen Compound.Edited c c' →
      m.test (some c) = true → m.test (some c') = true :=
  ⟨fun _ _ => accepts_of_simulates m, fun _ _ => accepts_of_edits m⟩

/-- A chest with a bag, and something strange, in it. -/
def chest (contents : List Tag) : Compound :=
  [("Items", .list [.string "?", .compound [("Contents", .list contents), ("Slot", .byte 3)]])]

/-- A bag in the third slot that holds a pearl. -/
def holdsPearl : TagMatcher :=
  .contains "Items" [.value "Slot" (.equal 3), .contains "Contents" [.value "Pearl" (.above 0)]]

/-- The order in the bag does not matter, nor does what else is put into it. -/
theorem simulation_keeps_test_chest :
    let pearl := Tag.compound [("Pearl", .int 1)]
    let stone := Tag.compound [("Stone", .int 64)]
    holdsPearl.test (some (chest [pearl, stone])) = true ∧
    holdsPearl.test (some (chest [stone, pearl])) = true ∧
    holdsPearl.test (some (chest [stone, pearl, .int 5])) = true := by
  intro pearl stone
  have changed {contents contents' : List Tag} (h : Tag.ItemsEdited contents contents') :
      Compound.Edited (chest contents) (chest contents') :=
    .under "Items" rfl
      (.list (.inside [.string "?"] [] (.compound (.under "Contents" rfl (.list h)))))
  have swapped := changed (.permuted (List.Perm.swap stone pearl []))
  have filled := changed (.appended [stone, pearl] [.int 5])
  have accepted : holdsPearl.test (some (chest [pearl, stone])) = true := by decide
  exact ⟨accepted,
    (simulation_keeps_test holdsPearl).1 _ _ (Compound.simulates_of_edited swapped) accepted,
    (simulation_keeps_test holdsPearl).2 _ _ (.tail (.single swapped) filled) accepted⟩

end TagMatcher

end EventRules
