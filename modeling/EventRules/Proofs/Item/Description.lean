/-
What an object that describes an item asks of a stack, against what the matcher made of it accepts.
If the object is taken without a report, has no `empty`, and its `mod` is a text, the stacks
accepted are those of which everything holds that the object asks. Else something can be passed over
without a word: beside `empty` nothing else is looked at, and a `mod` that is no text constrains
nothing.
-/
import EventRules.Item.Matcher
import EventRules.Proofs.Problem
import EventRules.Proofs.Rule.Kind

namespace EventRules.ItemMatcher

open Reported

/-! ## What an object asks -/

/-- The range that an object gives under a name, if it gives one, holds of a number. -/
def RangeHolds (members : List (String × Json)) (name : String) (n : Int64) : Prop :=
  ∀ v, Entries.find? name members = some v → ∃ e, RangeExpr.ofJson v = .ok e ∧ e.test n = true

/-- A stack as an object describes it: it is of the item named, and every further constraint that is
given holds of it. -/
structure Describes (members : List (String × Json)) (s : ItemStack) : Prop where
  item : ∃ name, Entries.find? "item" members = some (.string name) ∧ s.item = ResourceId.parse name
  damage : RangeHolds members "damage" s.damage.toInt64
  count : RangeHolds members "count" s.count.toInt64
  energy : RangeHolds members "energy" (s.energy.getD 0)
  space : ∀ v, Entries.find? "mod" members = some v → v = .string s.item.space
  nbt : ∀ v, Entries.find? "nbt" members = some v →
    ∃ matchers, TagMatcher.listOfJson v = .ok matchers ∧ ∀ m ∈ matchers, m.test s.tag = true
  empty : ∀ v, Entries.find? "empty" members = some v → v = .bool s.isEmpty

/-- The two fields that may hide a constraint: the one is not there, the other is a text. -/
structure Plain (members : List (String × Json)) : Prop where
  empty : Entries.find? "empty" members = none
  space : ∀ v, Entries.find? "mod" members = some v → ∃ text, v = .string text

/-! ## Constraints that were read -/

/-- What was read of a field: nothing where there is none. -/
def ReadAs {α : Type} (read : Json → Except Problem α) (field : Option Json) (c : Option α) :
    Prop :=
  (field = none ∧ c = none) ∨ ∃ v a, field = some v ∧ read v = .ok a ∧ c = some a

variable {members : List (String × Json)} {name : String} {item : ResourceId} {m : ItemMatcher}

/-- A constraint about which nothing is reported was read, or is not there. -/
theorem readAs_of_silent {α : Type} {read : Json → Except Problem α}
    (silent : (constraint read members name).reports = []) :
    ReadAs read (Entries.find? name members) (constraint read members name).result := by
  unfold constraint at silent ⊢
  rcases field : Entries.find? name members with _ | v
  · exact .inl ⟨rfl, rfl⟩
  · rw [field] at silent
    obtain ⟨a, read_v⟩ := ofExcept_silent silent
    exact .inr ⟨v, a, rfl, read_v, by simp [read_v]⟩

theorem ReadAs.range_iff {c : Option RangeExpr}
    (h : ReadAs RangeExpr.ofJson (Entries.find? name members) c) (n : Int64) :
    holdsIfGiven c (·.test n) = true ↔ RangeHolds members name n := by
  rcases h with ⟨none, rfl⟩ | ⟨v, e, field, read, rfl⟩
  · refine iff_of_true rfl fun v hv => ?_
    rw [none] at hv
    cases hv
  · constructor
    · intro holds v' hv
      rw [field] at hv
      cases hv
      exact ⟨e, read, holds⟩
    · intro holds
      obtain ⟨e', read', test⟩ := holds v field
      rw [read] at read'
      cases read'
      exact test

theorem ReadAs.nbt_iff {c : Option (List TagMatcher)}
    (h : ReadAs TagMatcher.listOfJson (Entries.find? "nbt" members) c) (tag : Option Compound) :
    (c.getD []).all (·.test tag) = true ↔
      ∀ v, Entries.find? "nbt" members = some v →
        ∃ matchers, TagMatcher.listOfJson v = .ok matchers ∧
          ∀ m ∈ matchers, m.test tag = true := by
  rw [List.all_eq_true]
  rcases h with ⟨none, rfl⟩ | ⟨v, matchers, field, read, rfl⟩
  · refine iff_of_true (List.forall_mem_nil _) fun v hv => ?_
    rw [none] at hv
    cases hv
  · constructor
    · intro holds v' hv
      rw [field] at hv
      cases hv
      exact ⟨matchers, read, holds⟩
    · intro holds
      obtain ⟨matchers', read', test⟩ := holds v field
      rw [read] at read'
      cases read'
      exact test

/-- The mod that an object names, if what it gives is a text. -/
theorem space_iff (text : ∀ v, Entries.find? "mod" members = some v → ∃ text, v = .string text)
    (space : String) :
    holdsIfGiven ((Entries.find? "mod" members).bind Json.string?) (space == ·) = true ↔
      ∀ v, Entries.find? "mod" members = some v → v = .string space := by
  rcases field : Entries.find? "mod" members with _ | v
  · exact iff_of_true rfl nofun
  · obtain ⟨named, rfl⟩ := text v field
    show (space == named) = true ↔ _
    rw [beq_iff_eq]
    constructor
    · rintro rfl v ⟨⟩
      rfl
    · intro h
      exact (Json.string.inj (h _ rfl)).symm

/-! ## The structured form -/

/-- Without a report the structured form has every constraint, read as it stands in the object. -/
theorem structured_of_silent (accepted : (structuredOfMembers item members).result = .ok m)
    (silent : (structuredOfMembers item members).reports = []) :
    ∃ damage count nbt energy,
      m = .structured item damage count ((Entries.find? "mod" members).bind Json.string?)
        (Option.getD nbt []) energy ∧
      ReadAs RangeExpr.ofJson (Entries.find? "damage" members) damage ∧
      ReadAs RangeExpr.ofJson (Entries.find? "count" members) count ∧
      ReadAs TagMatcher.listOfJson (Entries.find? "nbt" members) nbt ∧
      ReadAs RangeExpr.ofJson (Entries.find? "energy" members) energy := by
  unfold structuredOfMembers at accepted silent
  dsimp only at accepted silent
  split at accepted
  · cases accepted
  · rename_i damage read
    rw [read] at silent
    simp only [silent_bind] at silent
    obtain ⟨count, energy, nbt, -⟩ := silent
    refine ⟨damage, _, _, _, (Except.ok.inj accepted).symm, ?_, readAs_of_silent count,
      readAs_of_silent nbt, readAs_of_silent energy⟩
    rcases field : Entries.find? "damage" members with _ | v
    · rw [field] at read
      cases read
      exact .inl ⟨rfl, rfl⟩
    · rw [field] at read
      rcases range : RangeExpr.ofJson v with p | e
      · simp [range, Except.map] at read
      · simp only [range, Except.map, Except.ok.injEq] at read
        exact .inr ⟨v, e, rfl, range, read.symm⟩

/-- What a structured form accepts, constraint by constraint. -/
theorem test_structured_iff (accepted : (structuredOfMembers item members).result = .ok m)
    (silent : (structuredOfMembers item members).reports = []) (s : ItemStack) :
    m.test s = true ↔ s.item = item ∧ RangeHolds members "damage" s.damage.toInt64 ∧
      RangeHolds members "count" s.count.toInt64 ∧
      holdsIfGiven ((Entries.find? "mod" members).bind Json.string?) (s.item.space == ·) = true ∧
      (∀ v, Entries.find? "nbt" members = some v →
        ∃ matchers, TagMatcher.listOfJson v = .ok matchers ∧
          ∀ m ∈ matchers, m.test s.tag = true) ∧
      RangeHolds members "energy" (s.energy.getD 0) := by
  obtain ⟨damage, count, nbt, energy, rfl, hd, hc, hn, he⟩ := structured_of_silent accepted silent
  simp only [test, Bool.and_eq_true, beq_iff_eq, hd.range_iff, hc.range_iff, hn.nbt_iff,
    he.range_iff, and_assoc]

/-! ## The object form -/

/-- An object that is taken without a report is that of an empty stack or of none, or it is
structured and names its item. -/
theorem forms_of_silent {registry : Registry}
    (accepted : (ofMembers registry members).result = .ok m)
    (silent : (ofMembers registry members).reports = []) :
    (∃ b, Entries.find? "empty" members = some (.bool b) ∧ m = .empty b) ∨
    (Entries.find? "empty" members = none ∧
      ∃ name, Entries.find? "item" members = some (.string name) ∧
        (structuredOfMembers (ResourceId.parse name) members).result = .ok m ∧
        (structuredOfMembers (ResourceId.parse name) members).reports = []) := by
  unfold ofMembers at accepted silent
  dsimp only at accepted silent
  rcases field : Entries.find? "empty" members with _ | v
  · right
    rw [field] at accepted silent
    dsimp only at accepted silent
    refine ⟨rfl, ?_⟩
    rcases named : (Entries.find? "item" members).bind Json.string? with _ | name
    · rw [named] at accepted
      cases accepted
    · rw [named] at accepted silent
      dsimp only at accepted silent
      obtain ⟨v, item, text⟩ := Option.bind_eq_some_iff.1 named
      obtain rfl : v = .string name := by
        cases v <;> cases text
        rfl
      refine ⟨name, item, ?_⟩
      split at accepted
      · cases accepted
      · rename_i known
        rw [if_neg known] at silent
        split at accepted
        -- an entry of the ore dictionary is reported
        · rename_i ore
          rw [ore] at silent
          cases silent
        · rename_i ore
          rw [ore] at silent
          exact ⟨accepted, silent⟩
  · left
    rw [field] at accepted
    cases v with
    | bool b => exact ⟨b, rfl, (Except.ok.inj accepted).symm⟩
    | _ => cases accepted

/-- Whether a stack is empty does not tell its item. -/
theorem exists_not_described (members : List (String × Json)) (b : Bool) :
    ∃ s : ItemStack, s.isEmpty = b ∧ ¬ Describes members s := by
  -- two stacks of different items, both empty or neither
  let stack (path : String) : ItemStack :=
    { item := ⟨ResourceId.defaultSpace, path⟩, count := if b then 0 else 1 }
  by_contra none
  push Not at none
  have stone : Describes members (stack "stone") := none _ (by cases b <;> decide)
  have dirt : Describes members (stack "dirt") := none _ (by cases b <;> decide)
  obtain ⟨name, field, item⟩ := stone.item
  obtain ⟨name', field', item'⟩ := dirt.item
  rw [field] at field'
  cases field'
  have same : "stone" = "dirt" := congrArg ResourceId.path (item.trans item'.symm)
  exact absurd same (by decide)

/-- An object that is taken without a report: its matcher accepts only what the object describes
exactly if there is no `empty` and `mod` is a text, or if nothing is accepted at all. In the first
case it accepts all that the object describes. -/
theorem accepts_only_described_iff (registry : Registry)
    (accepted : (ofJson registry (.object members)).result = .ok m)
    (silent : (ofJson registry (.object members)).reports = []) :
    ((∀ s, m.test s = true → Describes members s) ↔ Plain members ∨ ∀ s, m.test s = false) ∧
      (Plain members → ∀ s, m.test s = true ↔ Describes members s) := by
  rcases forms_of_silent accepted silent with
    ⟨b, empty, rfl⟩ | ⟨empty, name, item, structured, quiet⟩
  · obtain ⟨s, hs, unsaid⟩ := exists_not_described members b
    have passes : (ItemMatcher.empty b).test s = true := by
      show (s.isEmpty == b) = true
      rw [hs, beq_self_eq_true]
    have not_plain : ¬ Plain members := fun plain => by
      have absent := plain.empty
      rw [empty] at absent
      cases absent
    refine ⟨iff_of_false (fun h => unsaid (h s passes)) ?_, fun plain => absurd plain not_plain⟩
    rintro (plain | never)
    · exact not_plain plain
    · rw [never s] at passes
      cases passes
  · have meets := test_structured_iff structured quiet
    have exact_of_plain (plain : Plain members) (s : ItemStack) :
        m.test s = true ↔ Describes members s := by
      rw [meets s, space_iff plain.space]
      constructor
      · rintro ⟨is_item, damage, count, space, nbt, energy⟩
        exact ⟨⟨name, item, is_item⟩, damage, count, energy, space, nbt,
          fun v hv => by rw [empty] at hv; cases hv⟩
      · rintro ⟨⟨name', item', is_item⟩, damage, count, energy, space, nbt, -⟩
        rw [item] at item'
        cases item'
        exact ⟨is_item, damage, count, space, nbt, energy⟩
    refine ⟨⟨fun sound => ?_, ?_⟩, exact_of_plain⟩
    · by_cases plain : Plain members
      · exact .inl plain
      -- a mod that is no text is what no stack is of
      · refine .inr fun s => Bool.eq_false_iff.2 fun accepts => ?_
        have described := sound s accepts
        exact plain ⟨empty, fun v hv => ⟨_, described.space v hv⟩⟩
    · rintro (plain | never) s accepts
      · exact (exact_of_plain plain s).1 accepts
      · rw [never s] at accepts
        cases accepts

/-- A bow that has hardly been used, and is not charged much. -/
def usedBow : List (String × Json) :=
  [("damage", .string "<10"), ("energy", .number (.integer 0)), ("item", .string "minecraft:bow"),
    ("mod", .string "minecraft")]

theorem accepts_only_described_usedBow :
    ∃ m, (ofJson Host.bare.registry (.object usedBow)).result = .ok m ∧
      (ofJson Host.bare.registry (.object usedBow)).reports = [] ∧
      ∀ s, m.test s = true ↔ Describes usedBow s := by
  have taken : (ofJson Host.bare.registry (.object usedBow)).result =
      .ok (.structured ⟨"minecraft", "bow"⟩ (some (.below 10)) none (some "minecraft") []
        (some (.equal 0))) ∧
      (ofJson Host.bare.registry (.object usedBow)).reports = [] := ⟨rfl, rfl⟩
  have plain : Plain usedBow := ⟨rfl, fun v hv => ⟨_, (Option.some.inj hv).symm⟩⟩
  exact ⟨_, taken.1, taken.2,
    (accepts_only_described_iff Host.bare.registry taken.1 taken.2).2 plain⟩

/-- A bow of a mod whose name is no text. -/
def misnamedBow : List (String × Json) :=
  [("item", .string "minecraft:bow"), ("mod", .number (.integer 5))]

/-- A bow in a stack that is not empty. -/
def presentBow : List (String × Json) :=
  [("empty", .bool false), ("item", .string "minecraft:bow")]

/-- A mod that is no text, or an item beside `empty`, is passed over without a report. -/
theorem constraint_passed_over :
    (∃ m, (ofJson Host.bare.registry (.object misnamedBow)).result = .ok m ∧
      (ofJson Host.bare.registry (.object misnamedBow)).reports = [] ∧
      ∃ s, m.test s = true ∧ ¬ Describes misnamedBow s) ∧
    (∃ m, (ofJson Host.bare.registry (.object presentBow)).result = .ok m ∧
      (ofJson Host.bare.registry (.object presentBow)).reports = [] ∧
      ∃ s, m.test s = true ∧ s.item ≠ ⟨"minecraft", "bow"⟩ ∧ ¬ Describes presentBow s) := by
  constructor
  · refine ⟨.structured ⟨"minecraft", "bow"⟩ none none none [] none, rfl, rfl,
      { item := ⟨"minecraft", "bow"⟩ }, by decide, fun described => ?_⟩
    have named := described.space _ rfl
    cases named
  · refine ⟨.empty false, rfl, rfl, { item := ⟨"minecraft", "stick"⟩ }, by decide, by decide,
      fun described => ?_⟩
    obtain ⟨name, field, item⟩ := described.item
    obtain rfl := Json.string.inj (Option.some.inj field)
    revert item
    decide

end EventRules.ItemMatcher
