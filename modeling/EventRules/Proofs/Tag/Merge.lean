/-
Merging compounds as a union. One look-up says all of it: under a name of the second compound the
result has what `Tag.over` makes of the two tags, under every other name the tag of the first. From
this the order of names is kept, and merging the same compound again changes nothing. The latter
needs that nothing changes where a nested compound met another tag and stands there itself: then the
compound is merged into itself, which is merging twice into the empty compound.
-/
import EventRules.Proofs.Tag.Order

namespace EventRules

variable {a b : Compound} {t : Tag}

namespace Compound

/-! ## Merging keeps the order -/

/-- Merging keeps the order if each single tag keeps it where it is put. -/
theorem ordered_merge_of (ha : a.Ordered)
    (each : ∀ p ∈ b, ∀ old : Option Tag, (∀ o ∈ old, o.Ordered) → (Tag.over old p.2).Ordered) :
    (a.merge b).Ordered := by
  induction b generalizing a with
  | nil => exact ha
  | cons head rest ih =>
    obtain ⟨first, others⟩ := List.forall_mem_cons.1 each
    exact ih (ha.insert head.1 (first _ fun o there => ha.tag there)) others

end Compound

theorem Tag.Ordered.over (ht : t.Ordered) {old : Option Tag}
    (h : ∀ o ∈ old, o.Ordered) : (Tag.over old t).Ordered := by
  induction ht generalizing old with
  | compound names tags ih =>
    unfold Tag.over
    split
    · exact Compound.ordered_merge_of (h _ rfl) fun p there old ordered => ih p there ordered
    · exact .compound names tags
  | list items => exact .list items
  | _ => constructor

namespace Compound

theorem Ordered.merge (ha : a.Ordered) (hb : b.Ordered) : (a.merge b).Ordered :=
  ordered_merge_of ha fun _ there _ ordered => (hb.tag_of_mem there).over ordered

/-! ## What stands under a name -/

/-- Under a name of the second compound stands its tag put over the one that was there. -/
theorem find?_merge (hb : Entries.Ordered b) (key : String) :
    Entries.find? key (a.merge b) =
      ((Entries.find? key b).map (Tag.over (Entries.find? key a))).or (Entries.find? key a) := by
  induction b generalizing a with
  | nil => rfl
  | cons head rest ih =>
    obtain ⟨-, tail⟩ := List.pairwise_cons.mp hb
    show Entries.find? key (Compound.merge (Entries.insert head.1 _ a) rest) = _
    rw [ih tail, Entries.find?_insert, Entries.find?_cons]
    by_cases named : head.1 = key
    · subst named
      rw [hb.find?_head, if_pos rfl, if_pos rfl]
      rfl
    · rw [if_neg named, if_neg named]

end Compound

/-- Unless both are compounds, a tag that is put over another takes its place. -/
theorem Tag.over_of_not_both {old : Option Tag}
    (h : ∀ x y, old = some (.compound x) → t ≠ .compound y) : Tag.over old t = t := by
  cases t with
  | compound theirs =>
    unfold Tag.over
    split
    · rename_i mine
      exact absurd rfl (h mine theirs rfl)
    · rfl
  | _ => rfl

namespace Compound

theorem nil_merge (hb : b.Ordered) : Compound.merge [] b = b := by
  refine Entries.eq_of_find? (ordered_nil.merge hb).names hb.names fun key => ?_
  rw [find?_merge hb.names]
  cases Entries.find? key b with
  | none => rfl
  | some t => exact congrArg some (Tag.over_of_not_both fun _ _ absent => by cases absent)

theorem mem_names_merge (hb : Entries.Ordered b) (key : String) :
    key ∈ (a.merge b).map Prod.fst ↔ key ∈ a.map Prod.fst ∨ key ∈ b.map Prod.fst := by
  have absent : key ∉ (a.merge b).map Prod.fst ↔ key ∉ a.map Prod.fst ∧ key ∉ b.map Prod.fst := by
    rw [← Entries.find?_eq_none_iff, ← Entries.find?_eq_none_iff, ← Entries.find?_eq_none_iff,
      find?_merge hb, Option.or_eq_none_iff, Option.map_eq_none_iff, and_comm]
  rw [← Decidable.not_iff_not, absent, not_or]

/-! ## Merging again -/

/-- Merging again changes nothing if that holds of each single tag. -/
theorem merge_merge_of (ha : a.Ordered) (hb : b.Ordered)
    (each : ∀ p ∈ b, ∀ old : Option Tag, (∀ o ∈ old, o.Ordered) →
      Tag.over (some (Tag.over old p.2)) p.2 = Tag.over old p.2) :
    (a.merge b).merge b = a.merge b := by
  have once := ha.merge hb
  refine Entries.eq_of_find? (once.merge hb).names once.names fun key => ?_
  rw [find?_merge hb.names, find?_merge hb.names]
  rcases there : Entries.find? key b with _ | t
  · rfl
  · exact congrArg some (each _ (Entries.mem_of_find? there) _ fun o old => ha.tag old)

end Compound

theorem Tag.over_over (ht : t.Ordered) {old : Option Tag} (h : ∀ o ∈ old, o.Ordered) :
    Tag.over (some (Tag.over old t)) t = Tag.over old t := by
  induction ht generalizing old with
  | @compound theirs names tags ih =>
    have again {mine : Compound} (ordered : mine.Ordered) :
        (mine.merge theirs).merge theirs = mine.merge theirs :=
      Compound.merge_merge_of ordered (.compound names tags) fun p there _ h => ih p there h
    have itself : Compound.merge theirs theirs = theirs := by
      have twice := again Compound.ordered_nil
      rwa [Compound.nil_merge (.compound names tags)] at twice
    by_cases both : ∃ mine, old = some (.compound mine)
    · obtain ⟨mine, rfl⟩ := both
      exact congrArg Tag.compound (again (h _ rfl))
    -- the compound stands there as it is, and is merged into itself
    · rw [Tag.over_of_not_both fun mine _ found => absurd ⟨mine, found⟩ both]
      exact congrArg Tag.compound itself
  | _ => rfl

namespace Compound

theorem merge_merge (ha : a.Ordered) (hb : b.Ordered) : (a.merge b).merge b = a.merge b :=
  merge_merge_of ha hb fun _ there _ h => Tag.over_over (hb.tag_of_mem there) h

/-! ## The union -/

/-- A compound that unites two: where both have a compound under a name it has the two merged, else
the second counts. -/
structure Unites (a b c : Compound) : Prop where
  names : ∀ key, key ∈ c.map Prod.fst ↔ key ∈ a.map Prod.fst ∨ key ∈ b.map Prod.fst
  kept : ∀ key, Entries.find? key b = none → Entries.find? key c = Entries.find? key a
  merged : ∀ key x y, Entries.find? key a = some (.compound x) →
    Entries.find? key b = some (.compound y) →
    Entries.find? key c = some (.compound (Compound.merge x y))
  overwritten : ∀ key t, Entries.find? key b = some t →
    (∀ x y, Entries.find? key a = some (.compound x) → t ≠ .compound y) →
    Entries.find? key c = some t

theorem unites_merge (hb : Entries.Ordered b) : Unites a b (a.merge b) where
  names := mem_names_merge hb
  kept key absent := by
    rw [find?_merge hb, absent]
    rfl
  merged key x y mine theirs := by
    rw [find?_merge hb, mine, theirs]
    rfl
  overwritten key t theirs apart := by
    rw [find?_merge hb, theirs, Option.map_some, Tag.over_of_not_both apart]
    rfl

/-- Merging unites two compounds, at every depth, and keeps the order of names. To merge the same
again or nothing changes nothing, and what is merged into nothing stays as it is. -/
theorem merge_deep_union (a b : Compound) (ha : a.Ordered) (hb : b.Ordered) :
    Unites a b (a.merge b) ∧ (a.merge b).Ordered ∧ (a.merge b).merge b = a.merge b ∧
      a.merge [] = a ∧ Compound.merge [] b = b :=
  ⟨unites_merge hb.names, ha.merge hb, merge_merge ha hb, rfl, nil_merge hb⟩

/-- A wolf with a name and a colour. -/
def wolf : Compound :=
  Entries.insert "display" (.compound (Entries.insert "Name" (.string "Rex") [("Color", .byte 1)]))
    [("Age", .int 3)]

/-- A patch that makes a compound of what was a number, and gives another name. -/
def renamed : Dict Json :=
  .ofPairs [("Age", .object [("Days", .number (.integer 3))]),
    ("display", .object [("Name", .string "Argos")])]

theorem merge_deep_union_wolf :
    ∃ patch, Compound.ofJson (.object renamed.entries) = some patch ∧
      wolf.merge patch = [("Age", .compound [("Days", .int 3)]),
        ("display", .compound [("Color", .byte 1), ("Name", .string "Argos")])] ∧
      Unites wolf patch (wolf.merge patch) ∧
      (wolf.merge patch).merge patch = wolf.merge patch := by
  have single {key : String} {t : Tag} (ordered : t.Ordered) : Ordered [(key, t)] :=
    ordered_nil.insert key ordered
  have wolf_ordered : wolf.Ordered :=
    (single (.int 3)).insert "display" ((single (.byte 1)).insert "Name" (.string "Rex"))
  have patch_ordered : Json.Ordered (.object renamed.entries) :=
    ⟨renamed.ordered, ⟨List.pairwise_singleton _ _, trivial, trivial⟩,
      ⟨List.pairwise_singleton _ _, trivial, trivial⟩, trivial⟩
  obtain ⟨union, -, again, -, -⟩ :=
    merge_deep_union wolf _ wolf_ordered (ordered_of_ofJson patch_ordered rfl)
  exact ⟨_, rfl, rfl, union, again⟩

end Compound

end EventRules
