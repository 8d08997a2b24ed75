/-
Count conditions as inequalities of integers. The threshold is the amount of a description, scaled
by the players or the chunks; the product of two 32-bit integers fits 64 bits, so the scaling is
exact, and the division by one player's area rounds toward zero. The creatures are counted exactly as
long as every sum on the way fits 32 bits, and else not at all. The minimum and the maximum of one
description are the two sides of one inequality, so of a count exactly one of them passes.
-/
import EventRules.Proofs.Condition.Disjunction
import EventRules.Proofs.Count.Current

namespace EventRules

namespace CountInfo

/-! ## The threshold -/

/-- The product of two 32-bit integers fits 64 bits. -/
theorem toInt_mul_toInt64 (a b : Int32) : (a.toInt64 * b.toInt64).toInt = a.toInt * b.toInt := by
  have bound (n : Int32) : n.toInt.natAbs ≤ 2 ^ 31 := by
    have low := n.le_toInt
    have high := n.toInt_lt
    omega
  have magnitude : (a.toInt * b.toInt).natAbs ≤ 2 ^ 31 * 2 ^ 31 := by
    rw [Int.natAbs_mul]
    exact Nat.mul_le_mul (bound a) (bound b)
  rw [Int64.toInt_mul, Int32.toInt_toInt64, Int32.toInt_toInt64]
  exact Int.bmod_eq_of_le (by omega) (by omega)

/-- An amount at a scale. -/
def scaled (amount : Int32) (scale : CountScale) (population : Population) (w : World) : Int :=
  match scale with
  | .fixed => amount.toInt
  | .perPlayer => amount.toInt * (population.players w).toInt
  | .perChunk => (amount.toInt * (population.spawnChunks w).toInt).tdiv 289

theorem toInt_threshold (c : CountInfo) (population : Population) (e : Event) :
    (c.threshold population e).toInt = scaled c.amount c.scale population e.world := by
  unfold threshold scaled
  cases c.scale with
  | fixed => exact Int32.toInt_toInt64 _
  | perPlayer => exact toInt_mul_toInt64 _ _
  | perChunk =>
    show (c.amount.toInt64 * (population.spawnChunks e.world).toInt64 / chunkArea).toInt = _
    rw [Int64.toInt_div_of_ne_right _ _ (by decide), toInt_mul_toInt64]
    rfl

/-! ## What a description asks for -/

/-- How an object scales its amount. -/
def Description.scale (d : Description) : CountScale :=
  if d.flag "perplayer" then .perPlayer else if d.flag "perchunk" then .perChunk else .fixed

/-- The amount and the scale of a description. Only an object has a scale. -/
inductive Asks : Json → Int32 → CountScale → Prop
  | number (n : Number) : Asks (.number n) n.toDouble.toInt32 .fixed
  | text {text : String} {s : CountSpecifier} (read : CountSpecifier.parse text = .ok s) :
    Asks (.string text) s.amount .fixed
  | object {d : Description} {n : Number} (there : d.get? "amount" = some (.number n)) :
    Asks (.object d.entries) n.toDouble.toInt32 d.scale

theorem asks_of_accepted {registry : Registry} {v : Json} {c : CountInfo} (ordered : v.Ordered)
    (accepted : ofJson registry v = .ok c) : Asks v c.amount c.scale := by
  cases v with
  | number n =>
    cases accepted
    exact .number n
  | string text =>
    simp only [ofJson] at accepted
    split at accepted
    · cases accepted
    · rename_i s read
      obtain ⟨ids, -, made⟩ := exists_of_bind accepted
      cases made
      exact .text read
  | object members =>
    let d : Description := ⟨members, ordered.1⟩
    obtain ⟨amount, f, read, made⟩ := Description.ofJson_object_eq_ok_iff.1 accepted
    obtain ⟨-, -, rfl⟩ := Description.ofFields_eq_ok_iff.1 made
    obtain ⟨taken, given⟩ := Description.ofObject_eq_ok_iff.1 read
    have said : d.SaidBy f := Description.saidBy_of_members taken
    rw [said.amount] at given
    obtain ⟨n, there⟩ := Description.number_of_member given
    rw [Description.member, there] at given
    cases given
    show Asks (.object d.entries) _ _
    rw [said.perPlayer, said.perChunk]
    exact .object there
  | _ => cases accepted

end CountInfo

/-! ## Documents -/

namespace Condition

variable {host : Host} {v : Json} {c : CountInfo}

/-- The test of a bound on a count. -/
def bounded (c : CountInfo) (population : Population)
    (passes : (current threshold : Int64) → Bool) (e : Event) : Except Fault Bool := do
  let current ← c.current population e
  return passes current.toInt64 (c.threshold population e)

theorem made_countClause (accepted : CountInfo.ofJson host.registry v = .ok c)
    (key : Key .json) (passes : (current threshold : Int64) → Bool) (companion : Option Json) :
    (countClause key passes).made host [v] companion =
      some (.count (bounded c host.population passes)) := by
  have taken : ValueType.json? v = some v := by
    cases v with
    | null => cases accepted
    | _ => rfl
  rw [Clause.made_of_supported rfl]
  show ((ValueType.json? v).bind fun input =>
    ((countClause key passes).build host input companion).result) = _
  rw [taken, Option.bind_some]
  show ((Reported.ofExcept (CountInfo.ofJson host.registry v)) >>= _).result = _
  rw [Reported.result_bind, accepted]
  rfl

theorem minCount_mem_catalogue :
    countClause Keyword.minCount (fun current threshold => threshold ≤ current) ∈ catalogue := by
  simp only [catalogue, occasion, countsAndDays, List.mem_append, List.mem_cons, true_or, or_true]

theorem maxCount_mem_catalogue :
    countClause Keyword.maxCount (fun current threshold => current < threshold) ∈ catalogue := by
  simp only [catalogue, occasion, countsAndDays, List.mem_append, List.mem_cons, true_or, or_true]

end Condition

namespace DeclarationSet

open CountInfo Condition

variable {s : DeclarationSet} {host : Host} {d : Document} {v : Json} {c : CountInfo}

theorem checksUnder_count {key : Key .json} {passes : (current threshold : Int64) → Bool}
    (listed : countClause key passes ∈ catalogue)
    (declares : s.get? key.name = some ⟨.single, .json⟩) (admits : s.Admits d)
    (accepted : CountInfo.ofJson host.registry v = .ok c) :
    s.checksUnder host (d.insert key.name v) key.name =
      [⟨key.name, .count (bounded c host.population passes)⟩] := by
  have checked : Declaration.checked ⟨.single, .json⟩ key.name v = .ok [v] := by
    cases v with
    | null => cases accepted
    | _ => rfl
  exact (checksUnder_insert_eq_iff listed declares).2
    ⟨admits_erase (fun _ _ => rfl) admits, _, _, checked, made_countClause accepted key passes _,
      rfl⟩

section Bounded

variable {population : Population} {e : Event} {n : Int32}

theorem bounded_of_error {fault : Fault} (h : c.current population e = .error fault)
    (passes : (current threshold : Int64) → Bool) :
    bounded c population passes e = .error fault := by
  rw [bounded, h]
  rfl

theorem bounded_min (counted : c.current population e = .ok n) :
    bounded c population (fun current threshold => threshold ≤ current) e =
      .ok (decide (scaled c.amount c.scale population e.world ≤ c.total population e)) := by
  have at_least : c.threshold population e ≤ n.toInt64 ↔
      scaled c.amount c.scale population e.world ≤ c.total population e := by
    rw [Int64.le_iff_toInt_le, toInt_threshold, Int32.toInt_toInt64, (current_eq_ok_iff.1 counted).2]
  rw [bounded, counted]
  exact congrArg Except.ok (decide_eq_decide.2 at_least)

theorem bounded_max_eq (c : CountInfo) (population : Population) (e : Event) :
    bounded c population (fun current threshold => current < threshold) e =
      (bounded c population (fun current threshold => threshold ≤ current) e).map (!·) := by
  unfold bounded
  cases c.current population e with
  | error fault => rfl
  | ok n =>
    have opposite : decide (n.toInt64 < c.threshold population e) =
        !decide (c.threshold population e ≤ n.toInt64) := by
      rw [← decide_not]
      exact decide_eq_decide.2 Int64.not_le.symm
    exact congrArg Except.ok opposite

theorem bounded_max (counted : c.current population e = .ok n) :
    bounded c population (fun current threshold => current < threshold) e =
      .ok (decide (c.total population e < scaled c.amount c.scale population e.world)) := by
  have below : (!decide (scaled c.amount c.scale population e.world ≤ c.total population e)) =
      decide (c.total population e < scaled c.amount c.scale population e.world) := by
    rw [← decide_not]
    exact decide_eq_decide.2 Int.not_le
  rw [bounded_max_eq, bounded_min counted]
  exact congrArg Except.ok below

end Bounded

/-- The minimum and the maximum of one description give one check each, and on every event either
both end in the same fault or exactly one of the two passes. The threshold is the amount that the
description asks for at its scale. Wherever there is a count it is the true number of the creatures,
and the minimum passes exactly if this is at least the threshold; and there is one exactly if every
sum on the way fits 32 bits, hence where no number is negative and their sum fits. -/
theorem count_bounds_partition (s : DeclarationSet) (host : Host) {d : Document}
    (admits : s.Admits d)
    (minimum : s.get? Keyword.minCount.name = some ⟨.single, .json⟩)
    (maximum : s.get? Keyword.maxCount.name = some ⟨.single, .json⟩)
    {v : Json} {c : CountInfo} (ordered : v.Ordered)
    (accepted : CountInfo.ofJson host.registry v = .ok c) :
    Asks v c.amount c.scale ∧
      (∀ n : Int32, (c.amount.toInt64 * n.toInt64).toInt = c.amount.toInt * n.toInt) ∧
      (∀ population e,
        (c.threshold population e).toInt = scaled c.amount c.scale population e.world) ∧
      ∃ low high, s.checksUnder host (d.insert Keyword.minCount.name v) Keyword.minCount.name =
          [low] ∧
        s.checksUnder host (d.insert Keyword.maxCount.name v) Keyword.maxCount.name = [high] ∧
        ∀ e g, (high.test.run e g).1 = (low.test.run e g).1.map (!·) ∧
          ((∃ n, c.current host.population e = .ok n) ↔
            SumsFit 0 (c.numbers host.population e)) ∧
          ((∀ n ∈ c.numbers host.population e, 0 ≤ n) → Fits (c.total host.population e) →
            ∃ n, c.current host.population e = .ok n) ∧
          ∀ n, c.current host.population e = .ok n → n.toInt = c.total host.population e ∧
            (low.test.run e g).1 = .ok (decide
              (scaled c.amount c.scale host.population e.world ≤ c.total host.population e)) := by
  refine ⟨asks_of_accepted ordered accepted, toInt_mul_toInt64 c.amount, toInt_threshold c, _, _,
    checksUnder_count minCount_mem_catalogue minimum admits accepted,
    checksUnder_count maxCount_mem_catalogue maximum admits accepted, fun e g => ?_⟩
  exact ⟨bounded_max_eq c host.population e, exists_current_iff,
    fun nonneg fits => exists_current_of_nonneg nonneg fits.2,
    fun n counted => ⟨(current_eq_ok_iff.1 counted).2, bounded_min counted⟩⟩

/-- Ten creatures in the area of every player. -/
def tenPerArea : Description :=
  .ofPairs [("amount", .number (.integer 10)), ("perchunk", .bool true)]

/-- Ten creatures of every species, and a few more chunks than one area has. -/
def crowded : Host :=
  { Host.bare with
    population := { Host.bare.population with
      ofSpecies := fun _ _ => 10
      spawnChunks := fun _ => 300 } }

theorem count_bounds_partition_crowded :
    ∃ c low high, CountInfo.ofJson crowded.registry (.object tenPerArea.entries) = .ok c ∧
      RuleKind.spawn.declarations.checksUnder crowded
        (Dict.empty.insert Keyword.minCount.name (.object tenPerArea.entries))
        Keyword.minCount.name = [low] ∧
      RuleKind.spawn.declarations.checksUnder crowded
        (Dict.empty.insert Keyword.maxCount.name (.object tenPerArea.entries))
        Keyword.maxCount.name = [high] ∧
      ∀ e g, (c.threshold crowded.population e).toInt = 10 ∧
        (low.test.run e g).1 = .ok true ∧ (high.test.run e g).1 = .ok false := by
  have accepted : CountInfo.ofJson crowded.registry (.object tenPerArea.entries) =
      .ok { amount := 10, scale := .perChunk } := rfl
  have ordered : Json.Ordered (.object tenPerArea.entries) :=
    ⟨tenPerArea.ordered, trivial, trivial, trivial⟩
  obtain ⟨-, -, threshold, low, high, hlow, hhigh, verdicts⟩ :=
    count_bounds_partition RuleKind.spawn.declarations crowded (d := .empty)
      (fun _ _ _ there => by cases there) (by decide +kernel) (by decide +kernel) ordered accepted
  refine ⟨_, low, high, accepted, hlow, hhigh, fun e g => ?_⟩
  obtain ⟨opposite, -, countable, verdict⟩ := verdicts e g
  have numbers : CountInfo.numbers { amount := 10, scale := .perChunk } crowded.population e =
      [10] := rfl
  have total : CountInfo.total { amount := 10, scale := .perChunk } crowded.population e = 10 := rfl
  have bound : scaled 10 .perChunk crowded.population e.world = 10 := by
    show (Int32.toInt 10 * Int32.toInt 300).tdiv 289 = 10
    decide
  rw [numbers, total] at countable
  obtain ⟨n, counted⟩ := countable (by decide) ⟨by decide, by decide⟩
  have passes : (low.test.run e g).1 = .ok true := by
    rw [(verdict n counted).2, total, bound]
    rfl
  exact ⟨(threshold crowded.population e).trans bound, passes, by rw [opposite, passes]; rfl⟩

end DeclarationSet

end EventRules
