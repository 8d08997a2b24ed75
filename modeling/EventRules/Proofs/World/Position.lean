/-
The views of an event on its place against one another: its position, its height, and the ground
below. Where an event has a block position of its own they are made from it. A spawn attempt rounds
its height coordinate three times, once toward zero and once behind a subtraction; this makes no
difference as long as the coordinate is not negative or has no fraction, and otherwise it does.
-/
import EventRules.Proofs.Binary.Floor
import EventRules.Proofs.Rule.Kind

namespace EventRules

namespace Event

/-- The height of an event is that of its position, and the ground is the block below. -/
structure Coherent (e : Event) : Prop where
  height : e.height = e.pos.y
  ground : e.ground = e.pos.below

end Event

namespace SpawnAttempt

open Binary

variable {s : SpawnAttempt} {y : ℚ}

/-- A height strictly inside the range is the floor of the coordinate. -/
theorem floor_eq (finite : s.y.value? = some y) (above : -2147483648 < s.event.pos.y.toInt)
    (below : s.event.pos.y.toInt < 2147483647) : ⌊y⌋ = s.event.pos.y.toInt := by
  have read : s.event.pos.y.toInt = clamp (-2147483648) 2147483647 ⌊y⌋ := toInt_floorInt32 finite
  rw [read] at above below
  rw [read, eq_of_clamp_inside above below]

theorem height_eq_iff (finite : s.y.value? = some y)
    (above : -2147483648 < s.event.pos.y.toInt) (below : s.event.pos.y.toInt < 2147483647) :
    s.event.height = s.event.pos.y ↔ 0 ≤ y ∨ ∃ n : ℤ, y = n := by
  have floor := floor_eq finite above below
  have height : s.event.height.toInt =
      clamp (-2147483648) 2147483647 (if 0 ≤ y then ⌊y⌋ else ⌈y⌉) := toInt_toInt32 finite
  rw [← Int32.toInt_inj, height]
  by_cases plain : 0 ≤ y ∨ ∃ n : ℤ, y = n
  · have same : (if 0 ≤ y then ⌊y⌋ else ⌈y⌉) = ⌊y⌋ := by
      split
      · rfl
      · rename_i negative
        obtain ⟨n, rfl⟩ := plain.resolve_left negative
        rw [Int.ceil_intCast, Int.floor_intCast]
    rw [same, floor, clamp, if_neg (by omega), if_neg (by omega)]
    exact iff_of_true rfl plain
  · -- the ceiling of a fraction is one more than its floor
    refine iff_of_false ?_ plain
    rw [not_or, not_exists] at plain
    have next : ⌈y⌉ = ⌊y⌋ + 1 := by
      refine (Int.ceil_eq_floor_add_one_iff_notMem y).2 ?_
      rintro ⟨n, same⟩
      exact plain.2 n same.symm
    rw [if_neg plain.1, next, floor, clamp, if_neg (by omega), if_neg (by omega)]
    omega

theorem ground_eq (inFormat : s.y.InFormat) (finite : s.y.value? = some y)
    (above : -2147483648 < s.event.pos.y.toInt) (below : s.event.pos.y.toInt < 2147483647)
    (plain : 0 ≤ y ∨ ∃ n : ℤ, y = n) : s.event.ground = s.event.pos.below := by
  have floor := floor_eq finite above below
  have small : |y| < 2 ^ 52 := by
    have least := Int.floor_le y
    have greatest := Int.lt_floor_add_one y
    have lower : (-2147483648 : ℚ) < ⌊y⌋ := by exact_mod_cast (floor ▸ above)
    have upper : (⌊y⌋ : ℚ) < 2147483647 := by exact_mod_cast (floor ▸ below)
    rw [abs_lt]
    constructor <;> linarith
  obtain ⟨w, difference, less⟩ := floor_sub_one inFormat finite small plain
  have shifted : (s.y - .one).floorInt32 = s.event.pos.y + -1 := by
    have read := toInt_floorInt32 difference
    rw [less, floor, clamp, if_neg (by omega), if_neg (by omega)] at read
    rw [← Int32.toInt_inj, read, Int32.toInt_add]
    show _ = (s.event.pos.y.toInt + -1).bmod (2 ^ 32)
    rw [Int.bmod_eq_of_le (by omega) (by omega)]
    omega
  show BlockPos.mk _ _ _ = BlockPos.mk _ _ _
  rw [shifted, Int32.add_zero, Int32.add_zero]
  rfl

end SpawnAttempt

namespace Event

/-- What happens in a game. -/
inductive Happening where
  | attempt (s : SpawnAttempt)
  | join (j : WorldJoin)
  | drop (d : ExperienceDrop)

namespace Happening

def event : Happening → Event
  | .attempt s => s.event
  | .join j => j.event
  | .drop d => d.event

/-- The height coordinate is a finite double, and the position lies strictly inside the range. -/
def Inside : Happening → Prop
  | .attempt s => s.y.InFormat ∧ (∃ y, s.y.value? = some y) ∧
      -2147483648 < s.event.pos.y.toInt ∧ s.event.pos.y.toInt < 2147483647
  | .join _ => True
  | .drop _ => True

/-- The height coordinate is no negative number with a fraction. -/
def Plain : Happening → Prop
  | .attempt s => ∀ y, s.y.value? = some y → 0 ≤ y ∨ ∃ n : ℤ, y = n
  | .join _ => True
  | .drop _ => True

end Happening

/-- The views of an event on its place agree whenever an entity joins a world or drops experience.
For a spawn attempt they agree exactly if the height coordinate is not a negative number with a
fraction. -/
theorem positions_agree_iff (h : Happening) (inside : h.Inside) :
    h.event.Coherent ↔ h.Plain := by
  cases h with
  | join j => exact iff_of_true ⟨rfl, rfl⟩ trivial
  | drop d => exact iff_of_true ⟨rfl, rfl⟩ trivial
  | attempt s =>
    obtain ⟨inFormat, ⟨y, finite⟩, above, below⟩ := inside
    have height := SpawnAttempt.height_eq_iff finite above below
    constructor
    · intro coherent y' same
      rw [finite, Option.some.injEq] at same
      exact same ▸ height.1 coherent.height
    · intro plain
      have plain := plain y finite
      exact ⟨height.2 plain, SpawnAttempt.ground_eq inFormat finite above below plain⟩

end Event

/-- A zombie that is to spawn in the void, at the centre of a block in the plane. -/
def SpawnAttempt.atHeight (y : Double) : SpawnAttempt where
  world := .void
  entity :=
    { species := ⟨ResourceId.defaultSpace, "zombie"⟩
      hostile := true
      animal := false
      placement := some true
      unobstructed := some true
      player := none }
  x := .ofScaled false 1 (-1)
  y := y
  z := .ofScaled false 1 (-1)
  nearestPlayer := none
  fromSpawner := false
  spawnedByRules := false

namespace Event

/-- So little above zero that one less is rounded to minus one. -/
def speck : Double := .finite false (2 ^ 52) (-112)

theorem positions_agree_iff_speck :
    (SpawnAttempt.atHeight speck).event.ground = ⟨0, -1, 0⟩ ∧
      (SpawnAttempt.atHeight speck).event.Coherent := by
  have inFormat : speck.InFormat := ⟨by decide, by decide, by decide⟩
  have placed : (SpawnAttempt.atHeight speck).event.pos.y.toInt = 0 := by decide +kernel
  have inside : (Happening.attempt (.atHeight speck)).Inside :=
    ⟨inFormat, ⟨_, rfl⟩, by omega, by omega⟩
  have plain : (Happening.attempt (.atHeight speck)).Plain := by
    intro y value
    refine .inl ?_
    cases value
    rw [Binary.signed, if_neg Bool.false_ne_true]
    positivity
  exact ⟨by decide +kernel, (positions_agree_iff (.attempt (.atHeight speck)) inside).2 plain⟩

/-- One half below zero the height is that of the block above, and a little below minus one the
ground is the very block that the position is. -/
theorem falling_views_disagree :
    let half : Double := .finite true (2 ^ 52) (-53)
    let beyond : Double := .finite true (2 ^ 52 + 1) (-52)
    (SpawnAttempt.atHeight half).event.height = 0 ∧
      (SpawnAttempt.atHeight half).event.pos = ⟨0, -1, 0⟩ ∧
      ¬ (SpawnAttempt.atHeight half).event.Coherent ∧
      (SpawnAttempt.atHeight beyond).event.pos = ⟨0, -2, 0⟩ ∧
      (SpawnAttempt.atHeight beyond).event.ground = ⟨0, -2, 0⟩ := by
  intro half beyond
  have height : (SpawnAttempt.atHeight half).event.height = 0 := by decide +kernel
  have place : (SpawnAttempt.atHeight half).event.pos = ⟨0, -1, 0⟩ := by decide +kernel
  refine ⟨height, place, fun coherent => ?_, by decide +kernel, by decide +kernel⟩
  have same := coherent.height
  rw [height, place] at same
  exact absurd same (by decide)

end Event

end EventRules
