/-
Counts of mobs against the true number of creatures. Counts are added in 32 bits, and no count is
negative; so the sum is the true number exactly as long as that number fits 32 bits. Then every sum
on the way fits as well, and both bounds of a description compare the true number with the
threshold. Else the count ends in a fault, and so do both bounds.
-/
import EventRules.Proofs.Count.Mobs
import EventRules.Proofs.Count.Threshold

namespace EventRules

namespace CountInfo

/-- A count that is taken of mobs without loss: every sum on the way fits 32 bits, the count is the
number of the creatures, and the checks of both bounds compare this number with the threshold. -/
structure Exact (d : Description) (c : CountInfo) (population : Population) (e : Event)
    (low high : Check) : Prop where
  between : ∀ part, part <+: d.mobs → Fits (tally population e.world part)
  count : ∃ n, c.current population e = .ok n ∧ n.toInt = tally population e.world d.mobs
  minimum : ∀ g, (low.test.run e g).1 =
    .ok (decide (scaled c.amount c.scale population e.world ≤ tally population e.world d.mobs))
  maximum : ∀ g, (high.test.run e g).1 =
    .ok (decide (tally population e.world d.mobs < scaled c.amount c.scale population e.world))

/-- A count that is not taken at all. -/
structure Faults (c : CountInfo) (population : Population) (e : Event) (low high : Check) :
    Prop where
  count : c.current population e = .error .countOverflow
  minimum : ∀ g, (low.test.run e g).1 = .error .countOverflow
  maximum : ∀ g, (high.test.run e g).1 = .error .countOverflow

theorem fits_tally_of_prefix {population : Population} {w : World} {names part : List String}
    (fits : SumsFit 0 (headcounts population w names)) (h : part <+: names) :
    Fits (tally population w part) := by
  have sum := fits _ (h.map fun name => (population.ofSpecies w (.parse name)).toInt)
  rwa [Int.zero_add] at sum

end CountInfo

namespace DeclarationSet

open CountInfo Condition

/-- Where no species has a negative count, an object that names mobs is counted without loss exactly
if the creatures of the mobs are less than `2 ^ 31`; else the count and both checks end in a
fault. -/
theorem several_species_exact_iff (s : DeclarationSet) (host : Host) (doc : Document)
    (admits : s.Admits doc)
    (minimum : s.get? Keyword.minCount.name = some ⟨.single, .json⟩)
    (maximum : s.get? Keyword.maxCount.name = some ⟨.single, .json⟩)
    {d : Description} {c : CountInfo} (named : d.mobs ≠ [])
    (accepted : ofJson host.registry (.object d.entries) = .ok c) :
    ∃ low high,
      s.checksUnder host (doc.insert Keyword.minCount.name (.object d.entries))
        Keyword.minCount.name = [low] ∧
      s.checksUnder host (doc.insert Keyword.maxCount.name (.object d.entries))
        Keyword.maxCount.name = [high] ∧
      ∀ e, (∀ id, 0 ≤ (host.population.ofSpecies e.world id).toInt) →
        (Exact d c host.population e low high ↔
          tally host.population e.world d.mobs < 2 ^ 31) ∧
        (¬tally host.population e.world d.mobs < 2 ^ 31 →
          Faults c host.population e low high) := by
  refine ⟨_, _, checksUnder_count minCount_mem_catalogue minimum admits accepted,
    checksUnder_count maxCount_mem_catalogue maximum admits accepted, fun e natural => ?_⟩
  have numbers := Description.numbers_of_mobs named accepted host.population e
  have total : c.total host.population e = tally host.population e.world d.mobs := by
    rw [CountInfo.total, numbers]
    rfl
  have fits_iff : SumsFit 0 (c.numbers host.population e) ↔
      tally host.population e.world d.mobs < 2 ^ 31 := by
    rw [numbers]
    exact sumsFit_iff_of_nonneg (headcounts_nonneg natural d.mobs)
  refine ⟨⟨fun exactly => ?_, fun small => ?_⟩, fun large => ?_⟩
  · obtain ⟨n, -, count⟩ := exactly.count
    rw [← count]
    exact n.toInt_lt
  · obtain ⟨n, counted⟩ := exists_current_iff.2 (fits_iff.2 small)
    have low := bounded_min counted
    have high := bounded_max counted
    rw [total] at low high
    rw [numbers] at fits_iff
    exact ⟨fun _ first => fits_tally_of_prefix (fits_iff.2 small) first,
      ⟨n, counted, (current_eq_ok_iff.1 counted).2.trans total⟩, fun _ => low, fun _ => high⟩
  · have overflow := current_of_not_sumsFit (mt fits_iff.1 large)
    exact ⟨overflow, fun _ => bounded_of_error overflow fun current threshold => threshold ≤ current,
      fun _ => bounded_of_error overflow fun current threshold => current < threshold⟩

theorem spawn_declares_counts :
    RuleKind.spawn.declarations.get? Keyword.minCount.name = some ⟨.single, .json⟩ ∧
      RuleKind.spawn.declarations.get? Keyword.maxCount.name = some ⟨.single, .json⟩ := by
  decide +kernel

/-- Seven cows and pigs. -/
def cattle : Description := listing (.integer 7) ["cow", "pig"]

/-- Three cows, four creatures of every other species, and nothing else known of the game. -/
def pastured : Host := { Host.bare with population := herd }

theorem several_species_exact_iff_pastured :
    ∃ c low high, ofJson pastured.registry (.object cattle.entries) = .ok c ∧
      RuleKind.spawn.declarations.checksUnder pastured
        (Dict.empty.insert Keyword.minCount.name (.object cattle.entries))
        Keyword.minCount.name = [low] ∧
      ∀ e, Exact cattle c pastured.population e low high := by
  have mobs : cattle.mobs = ["cow", "pig"] := mobs_listing _ _
  have known : ∀ name ∈ ["cow", "pig"], pastured.registry.hasEntity (.parse name) = true :=
    fun _ _ => rfl
  have accepted : ofJson pastured.registry (.object cattle.entries) = _ :=
    ofJson_listing known (.integer 7)
  obtain ⟨low, high, checked, -, exact_iff⟩ :=
    several_species_exact_iff RuleKind.spawn.declarations pastured .empty
      (fun _ _ _ there => by cases there) spawn_declares_counts.1 spawn_declares_counts.2
      (by rw [mobs]; exact List.cons_ne_nil _ _) accepted
  refine ⟨_, low, high, accepted, checked, fun e => (exact_iff e fun id => ?_).1.2 ?_⟩
  · show 0 ≤ Int32.toInt (if id = .parse "minecraft:cow" then 3 else 4)
    split <;> decide
  · rw [mobs]
    show (7 : Int) < 2 ^ 31
    decide

/-- One zombie or husk. -/
def undead : Description := listing (.integer 1) ["zombie", "husk"]

/-- As many zombies as 32 bits can count, and one creature of every other species. -/
def overrun : Host :=
  { Host.bare with
    population := { Host.bare.population with
      ofSpecies := fun _ id => if id = .parse "zombie" then 2147483647 else 1 } }

/-- With one creature more than 32 bits can count there is no verdict. -/
theorem overflowing_count_faults :
    ∃ c low, ofJson overrun.registry (.object undead.entries) = .ok c ∧
      RuleKind.spawn.declarations.checksUnder overrun
        (Dict.empty.insert Keyword.minCount.name (.object undead.entries))
        Keyword.minCount.name = [low] ∧
      ∀ e g, tally overrun.population e.world ["zombie", "husk"] = 2 ^ 31 ∧
        c.current overrun.population e = .error .countOverflow ∧
        (low.test.run e g).1 = .error .countOverflow := by
  have known : ∀ name ∈ ["zombie", "husk"], overrun.registry.hasEntity (.parse name) = true :=
    fun _ _ => rfl
  have accepted : ofJson overrun.registry (.object undead.entries) = _ :=
    ofJson_listing known (.integer 1)
  refine ⟨_, _, accepted, checksUnder_count minCount_mem_catalogue spawn_declares_counts.1
    (fun _ _ _ there => by cases there) accepted, fun e g => ?_⟩
  have overflow (amount : Int32) : CountInfo.current
      { amount := amount, species := speciesNamed ["zombie", "husk"] } overrun.population e =
      .error .countOverflow := by
    show [2147483647, 1].foldlM addCount 0 = _
    decide
  refine ⟨?_, overflow _, bounded_of_error (overflow _) fun current threshold =>
    threshold ≤ current⟩
  show Int32.toInt 2147483647 + (Int32.toInt 1 + 0) = 2 ^ 31
  decide

end DeclarationSet

end EventRules
