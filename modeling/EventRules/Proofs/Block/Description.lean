/-
What a description of a block asks, against what the matcher made of it refuses. A matcher accepts
every block exactly if each of its four constraints is one that everything satisfies, and of a
description that is taken without a report each constraint can be told from the fields that stand in
it. So a description that asks for something is refused somewhere, and one that asks for nothing is
accepted everywhere without a word: among these are an object whose fields all have unknown names,
and one whose only field is a `mod` that is no text.
-/
import EventRules.Block.Matcher
import EventRules.Proofs.Condition.Silence
import EventRules.Proofs.Item.Description

namespace EventRules

theorem Json.listed_eq_nil_iff {v : Json} : v.listed = [] ↔ v = .array [] := by
  cases v <;> simp [listed]

/-! ## What everything satisfies -/

theorem BlockIdentity.eq_any_of_test {identity : BlockIdentity}
    (h : identity.test none = true) : identity = .any := by
  cases identity with
  | any => rfl
  | _ => cases h

/-- What is asked of something that is not there is not satisfied. -/
theorem eq_none_of_holdsIfGiven {α : Type} {constraint : Option α}
    (h : holdsIfGiven constraint (fun _ => false) = true) : constraint = none := by
  cases constraint with
  | none => rfl
  | some a => cases h

namespace BlockMatcher

open Reported

variable {registry : Registry} {members : List (String × Json)} {refused : Problem}
  {m : BlockMatcher}

/-- A matcher accepts every block exactly if it asks for no block, no mod and no contents, and for
an energy that any amount is. -/
theorem accepts_all_iff :
    (∀ w p, m.test w p = true) ↔ m.identity = .any ∧ m.space = none ∧ m.contains = none ∧
      ∀ n, holdsIfGiven m.energy (·.test n) = true := by
  constructor
  · intro all
    -- in a world of which nothing is loaded there is no block and nothing in it, but any energy
    have void (n : Int64) := all { World.void with energy := fun _ _ => some n } ⟨0, 0, 0⟩
    simp only [test, Bool.and_eq_true] at void
    obtain ⟨⟨⟨identity, space⟩, -⟩, contents⟩ := void 0
    exact ⟨BlockIdentity.eq_any_of_test identity, eq_none_of_holdsIfGiven space,
      eq_none_of_holdsIfGiven contents, fun n => (void n).1.2⟩
  · rintro ⟨identity, space, contents, energy⟩ w p
    simp only [test, identity, space, contents, Bool.and_eq_true]
    exact ⟨⟨⟨rfl, rfl⟩, energy _⟩, rfl⟩

/-! ## Fields of an object -/

/-- No block is asked for exactly if none is given; an ore would have been reported. -/
theorem identity_eq_any_iff {identity : BlockIdentity}
    (read : (identityOfMembers registry members refused).result = .ok identity)
    (silent : (identityOfMembers registry members refused).reports = []) :
    identity = .any ↔ Entries.find? "block" members = none := by
  unfold identityOfMembers at read silent
  rcases ore : Entries.find? "ore" members with _ | ore
  · rcases given : Entries.find? "block" members with _ | v
    · simp only [ore, given, result_pure, Except.ok.injEq] at read
      exact iff_of_true read.symm rfl
    · refine iff_of_false ?_ nofun
      rintro rfl
      simp only [ore, given, result_pure] at read
      rcases text : v.string? with _ | name
      · rw [text] at read
        cases read
      · simp only [text, Bind.bind, Except.bind] at read
        split at read
        · cases read
        · split at read
          · cases read
          · split at read
            · cases read
            · cases read
  · rw [ore] at silent
    cases silent

theorem space_eq_none_iff :
    (Entries.find? "mod" members).bind Json.string? = none ↔
      ∀ space, Entries.find? "mod" members ≠ some (.string space) := by
  rcases Entries.find? "mod" members with _ | v
  · simp
  · cases v <;> simp [Json.string?]

/-- Nothing is asked of the contents exactly if nothing but an empty list is given. -/
theorem contents_eq_none_iff (silent : (contentsOfMembers registry members).reports = []) :
    (contentsOfMembers registry members).result = none ↔
      ∀ v, Entries.find? "contains" members = some v → v = .array [] := by
  unfold contentsOfMembers at silent ⊢
  rcases given : Entries.find? "contains" members with _ | v
  · exact iff_of_true rfl nofun
  · simp only [given, silent_bind] at silent ⊢
    have length := ItemMatcher.length_listOfJson registry silent.1
    rw [result_bind, result_pure, Condition.unless_empty_eq_none_iff, ← List.length_eq_zero_iff,
      length, List.length_eq_zero_iff, Json.listed_eq_nil_iff]
    simp

/-- The constraints of a matcher whose object is taken without a report, field by field. -/
theorem fields_of_silent (accepted : (ofMembers registry members).result = .ok m)
    (silent : (ofMembers registry members).reports = []) :
    (m.identity = .any ↔ Entries.find? "block" members = none) ∧
    (m.space = none ↔ ∀ space, Entries.find? "mod" members ≠ some (.string space)) ∧
    (m.contains = none ↔ ∀ v, Entries.find? "contains" members = some v → v = .array []) ∧
    ItemMatcher.ReadAs RangeExpr.ofJson (Entries.find? "energy" members) m.energy := by
  unfold ofMembers at accepted silent
  rw [result_bind] at accepted
  rw [silent_bind] at silent
  obtain ⟨no_ore, silent⟩ := silent
  split at accepted
  · cases accepted
  · rename_i identity read
    simp only [read] at silent
    split at accepted
    · cases accepted
    · rename_i side named
      simp only [named, silent_bind] at silent
      obtain ⟨energy, contents, -⟩ := silent
      cases accepted
      exact ⟨identity_eq_any_iff read no_ore, space_eq_none_iff, contents_eq_none_iff contents,
        ItemMatcher.readAs_of_silent energy⟩

/-! ## Descriptions -/

/-- What a description can say for some block to be refused: it names a block or a mod, it has a
list of contents that is not empty, or a range of energies that leaves one out. -/
inductive Restricts : Json → Prop
  | name (name : String) : Restricts (.string name)
  | block {members : List (String × Json)} {v : Json}
    (given : Entries.find? "block" members = some v) : Restricts (.object members)
  | mod {members : List (String × Json)} {space : String}
    (given : Entries.find? "mod" members = some (.string space)) : Restricts (.object members)
  | contents {members : List (String × Json)} {v : Json}
    (given : Entries.find? "contains" members = some v) (filled : v ≠ .array []) :
    Restricts (.object members)
  | energy {members : List (String × Json)} {v : Json} {e : RangeExpr} {n : Int64}
    (given : Entries.find? "energy" members = some v) (read : RangeExpr.ofJson v = .ok e)
    (excluded : e.test n = false) : Restricts (.object members)

theorem accepts_all_iff_of_silent (accepted : (ofMembers registry members).result = .ok m)
    (silent : (ofMembers registry members).reports = []) :
    (∀ w p, m.test w p = true) ↔ ¬ Restricts (.object members) := by
  obtain ⟨identity, space, contents, energy⟩ := fields_of_silent accepted silent
  rw [accepts_all_iff, identity, space, contents]
  constructor
  · rintro ⟨no_block, no_mod, no_contents, any_energy⟩ restricts
    cases restricts with
    | block given =>
      rw [no_block] at given
      cases given
    | mod given => exact no_mod _ given
    | contents given filled => exact filled (no_contents _ given)
    | energy given read excluded =>
      obtain ⟨e, read', included⟩ := (energy.range_iff _).1 (any_energy _) _ given
      rw [read] at read'
      cases read'
      rw [included] at excluded
      cases excluded
  · intro open_to_all
    refine ⟨?_, fun space given => open_to_all (.mod given), fun v given => ?_, fun n => ?_⟩
    · by_contra given
      obtain ⟨v, given⟩ := Option.ne_none_iff_exists'.1 given
      exact open_to_all (.block given)
    · by_contra filled
      exact open_to_all (.contents given filled)
    · rcases energy with ⟨-, none⟩ | ⟨v, e, given, read, some⟩
      · rw [none]
        rfl
      · rw [some]
        by_contra excluded
        exact open_to_all (.energy given read (Bool.eq_false_iff.2 excluded))

theorem accepts_all_iff_of_name {name : String}
    (accepted : (ofJson registry (.string name)).result = .ok m)
    (silent : (ofJson registry (.string name)).reports = []) :
    (∀ w p, m.test w p = true) ↔ ¬ Restricts (.string name) := by
  rw [ofJson] at accepted silent
  split at accepted
  · rename_i ore
    rw [if_pos ore] at silent
    cases silent
  · rw [result_pure] at accepted
    rcases known : knownBlock registry name with p | id
    · rw [known] at accepted
      cases accepted
    · rw [known] at accepted
      cases accepted
      rw [accepts_all_iff]
      exact iff_of_false (fun none => by cases none.1) (fun open_to_all => open_to_all (.name name))

/-- A description is taken without a report: there are a world and a position where its matcher
refuses the block exactly if the description says something that some block does not satisfy. -/
theorem refuses_iff_restricts (registry : Registry) {v : Json}
    (accepted : (ofJson registry v).result = .ok m) (silent : (ofJson registry v).reports = []) :
    (∃ w p, m.test w p = false) ↔ Restricts v := by
  have all : (∀ w p, m.test w p = true) ↔ ¬ Restricts v := by
    cases v with
    | string name => exact accepts_all_iff_of_name accepted silent
    | object members => exact accepts_all_iff_of_silent accepted silent
    | _ => cases accepted
  rw [← not_iff_not, ← all]
  simp only [not_exists, Bool.not_eq_false]

/-- Something that holds diamonds, seen from above. -/
def diamondChest : Json :=
  .object [("contains", .string "minecraft:diamond"), ("side", .string "up")]

theorem refuses_iff_restricts_chest :
    ∃ m, (ofJson Host.bare.registry diamondChest).result = .ok m ∧
      (ofJson Host.bare.registry diamondChest).reports = [] ∧ ∃ w p, m.test w p = false := by
  have taken : (ofJson Host.bare.registry diamondChest).result =
      .ok { identity := .any, contains := some [.stack ⟨"minecraft", "diamond"⟩ none none],
            side := some .up } ∧
      (ofJson Host.bare.registry diamondChest).reports = [] := ⟨rfl, rfl⟩
  exact ⟨_, taken.1, taken.2,
    (refuses_iff_restricts Host.bare.registry taken.1 taken.2).2 (.contents rfl nofun)⟩

/-- A block of a mod whose name is no text. -/
def misnamedMod : Json := .object [("mod", .number (.integer 5))]

/-- The name of a block under a name that no field has. -/
def misspeltField : Json := .object [("blok", .string "minecraft:stone")]

/-- A `mod` that is no text, or a field of an unknown name, is passed over without a report: what is
left accepts every block. -/
theorem misdescribed_accepts_all :
    (∃ m, (ofJson Host.bare.registry misnamedMod).result = .ok m ∧
      (ofJson Host.bare.registry misnamedMod).reports = [] ∧ ∀ w p, m.test w p = true) ∧
    ∃ m, (ofJson Host.bare.registry misspeltField).result = .ok m ∧
      (ofJson Host.bare.registry misspeltField).reports = [] ∧ ∀ w p, m.test w p = true :=
  ⟨⟨{ identity := .any }, rfl, rfl, fun _ _ => rfl⟩,
    ⟨{ identity := .any }, rfl, rfl, fun _ _ => rfl⟩⟩

end BlockMatcher

end EventRules
