/-
The distance between an event and the point where players first appear. Coordinates of up to 25 bits
have a squared distance of less than 53 bits, so it is exact in double precision, and so is the
square of a threshold. Comparing the squares compares the distance with the magnitude of the
threshold; for a threshold below zero this is another condition than comparing with the threshold.
-/
import EventRules.Proofs.Binary.Single
import EventRules.Proofs.Condition.Given
import EventRules.Proofs.World.Position
import Mathlib.Analysis.InnerProductSpace.PiL2

namespace EventRules

open Binary

/-! ## Positions -/

namespace BlockPos

/-- No coordinate is greater in magnitude. -/
structure Within (limit : ℕ) (p : BlockPos) : Prop where
  x : p.x.toInt.natAbs ≤ limit
  y : p.y.toInt.natAbs ≤ limit
  z : p.z.toInt.natAbs ≤ limit

/-- A position as a point in space. -/
noncomputable def point (p : BlockPos) : EuclideanSpace ℝ (Fin 3) :=
  !₂[(p.x.toInt : ℝ), (p.y.toInt : ℝ), (p.z.toInt : ℝ)]

/-- The squared distance between two positions, which is an integer. -/
def separation (p q : BlockPos) : ℤ :=
  (p.x.toInt - q.x.toInt) ^ 2 + (p.y.toInt - q.y.toInt) ^ 2 + (p.z.toInt - q.z.toInt) ^ 2

theorem dist_point_sq (p q : BlockPos) : dist p.point q.point ^ 2 = p.separation q := by
  rw [EuclideanSpace.dist_eq, Real.sq_sqrt (Finset.sum_nonneg fun _ _ => sq_nonneg _),
    Fin.sum_univ_three]
  simp only [Real.dist_eq, sq_abs, point, separation]
  push_cast
  rfl

/-- The squared difference of two coordinates is met exactly. -/
theorem value?_along {a b : ℤ} (ha : a.natAbs ≤ 2 ^ 24) (hb : b.natAbs ≤ 2 ^ 24) :
    ((a - b) ^ 2).natAbs ≤ 2 ^ 50 ∧
      (((ofInt a - ofInt b) * (ofInt a - ofInt b) : Double)).value? =
        some (((a - b) ^ 2 : ℤ) : ℚ) := by
  have apart : (a - b).natAbs ≤ 2 ^ 25 := by omega
  have square : ((a - b) ^ 2).natAbs ≤ 2 ^ 50 := by
    rw [Int.natAbs_pow]
    exact Nat.pow_le_pow_left apart 2
  have first : (ofInt a : Double).value? = some (a : ℚ) := (rounds_ofInt a).value_of_int (by omega)
  have second : (ofInt b : Double).value? = some (b : ℚ) := (rounds_ofInt b).value_of_int (by omega)
  have difference : (ofInt a - ofInt b : Double).value? = some ((a - b : ℤ) : ℚ) := by
    refine Rounds.value_of_int ?_ (by omega)
    push_cast
    exact rounds_sub first second
  refine ⟨square, Rounds.value_of_int ?_ (by omega)⟩
  rw [pow_two]
  push_cast
  exact_mod_cast rounds_mul difference difference

theorem value?_distanceSquared {p q : BlockPos} (hp : p.Within (2 ^ 24)) (hq : q.Within (2 ^ 24)) :
    (p.distanceSquared q).value? = some (p.separation q : ℚ) := by
  obtain ⟨smallX, alongX⟩ := value?_along hp.x hq.x
  obtain ⟨smallY, alongY⟩ := value?_along hp.y hq.y
  obtain ⟨smallZ, alongZ⟩ := value?_along hp.z hq.z
  have plane := (rounds_add alongX alongY)
  rw [← Int.cast_add] at plane
  have space := rounds_add (plane.value_of_int (by omega)) alongZ
  rw [← Int.cast_add] at space
  exact space.value_of_int (by omega)

end BlockPos

/-! ## Events and thresholds -/

namespace Event

/-- The distance from the point where players first appear. -/
noncomputable def spawnDistance (e : Event) : ℝ := dist e.pos.point e.world.spawnPoint.point

/-- The event and the point where players first appear are not far from the middle of the world. -/
def Central (e : Event) : Prop := e.pos.Within (2 ^ 24) ∧ e.world.spawnPoint.Within (2 ^ 24)

end Event

namespace Condition

variable {t : Single} {v : ℚ} {e : Event}

/-- The square of a threshold is met exactly. -/
theorem value?_squared (inFormat : t.InFormat) (hv : t.value? = some v) :
    (squared t).value? = some (v * v) := by
  have held : Format.single.Holds v := inFormat.holds hv
  have wide : (t.convert : Double).value? = some v :=
    (rounds_convert hv).value_of_holds held.widened
  exact (rounds_mul wide wide).value_of_holds held.squared

/-- The squares compare as the magnitudes. -/
theorem squares_compare (e : Event) (v : ℚ) :
    (v * v ≤ (e.pos.separation e.world.spawnPoint : ℚ) ↔ |(v : ℝ)| ≤ e.spawnDistance) ∧
      ((e.pos.separation e.world.spawnPoint : ℚ) ≤ v * v ↔ e.spawnDistance ≤ |(v : ℝ)|) := by
  have distance : e.spawnDistance ^ 2 = (e.pos.separation e.world.spawnPoint : ℝ) :=
    BlockPos.dist_point_sq _ _
  have nonneg : 0 ≤ e.spawnDistance := dist_nonneg
  constructor
  · rw [← sq_le_sq₀ (abs_nonneg _) nonneg, sq_abs, distance, pow_two]
    exact_mod_cast Iff.rfl
  · rw [← sq_le_sq₀ nonneg (abs_nonneg _), sq_abs, distance, pow_two]
    exact_mod_cast Iff.rfl

theorem squared_le_iff (inFormat : t.InFormat) (hv : t.value? = some v) (central : e.Central) :
    (squared t).le (spawnDistanceSquared e) = true ↔ |(v : ℝ)| ≤ e.spawnDistance := by
  rw [← (squares_compare e v).1]
  exact le_iff_of_values (value?_squared inFormat hv)
    (BlockPos.value?_distanceSquared central.1 central.2)

theorem le_squared_iff (inFormat : t.InFormat) (hv : t.value? = some v) (central : e.Central) :
    (spawnDistanceSquared e).le (squared t) = true ↔ e.spawnDistance ≤ |(v : ℝ)| := by
  rw [← (squares_compare e v).2]
  exact le_iff_of_values (BlockPos.value?_distanceSquared central.1 central.2)
    (value?_squared inFormat hv)

theorem minSpawnDistance_mem_catalogue :
    Clause.single Keyword.minSpawnDistance
      (fun (d : Single) e => (squared d).le (spawnDistanceSquared e)) ∈ catalogue := by
  simp only [catalogue, surroundings, worldState, List.mem_append, List.mem_cons, true_or, or_true]

theorem maxSpawnDistance_mem_catalogue :
    Clause.single Keyword.maxSpawnDistance
      (fun (d : Single) e => (spawnDistanceSquared e).le (squared d)) ∈ catalogue := by
  simp only [catalogue, surroundings, worldState, List.mem_append, List.mem_cons, true_or, or_true]

end Condition

/-! ## Documents -/

/-- A zombie that joins the world where players first appear. -/
def Event.atSpawn : Event :=
  WorldJoin.event {
    world := .void
    entity := (SpawnAttempt.atHeight (.zero false)).entity
    pos := World.void.spawnPoint
    nearestPlayer := none
    spawnedByRules := false }

theorem Event.central_atSpawn : atSpawn.Central :=
  have middle : World.void.spawnPoint.Within (2 ^ 24) := ⟨by decide, by decide, by decide⟩
  ⟨middle, middle⟩

theorem Event.spawnDistance_atSpawn : atSpawn.spawnDistance = 0 := dist_self _

namespace DeclarationSet

variable {s : DeclarationSet} {host : Host} {d : Document} {m : AttributeMap}

/-- The one check under a keyword comes to a verdict on central events, and passes exactly where the
distance is as asked. -/
def AsksDistance (s : DeclarationSet) (host : Host) (d : Document) (key : Key .float)
    (asked : ℝ → Prop) : Prop :=
  ∃ check, s.checksUnder host d key.name = [check] ∧
    ∀ e g, e.Central → check.test.Decides e g (asked e.spawnDistance)

/-- What a check asks at a distance is determined. -/
theorem AsksDistance.agree {key : Key .float} {asked asked' : ℝ → Prop}
    (h : s.AsksDistance host d key asked) (h' : s.AsksDistance host d key asked') :
    asked 0 ↔ asked' 0 := by
  obtain ⟨check, under, passes⟩ := h
  obtain ⟨check', under', passes'⟩ := h'
  obtain rfl : check = check' := List.singleton_inj.1 (under.symm.trans under')
  have first := passes .atSpawn { word := fun _ => 0 } Event.central_atSpawn
  have second := passes' .atSpawn { word := fun _ => 0 } Event.central_atSpawn
  rw [Event.spawnDistance_atSpawn] at first second
  exact first.agree second

variable {t : Single} {v : ℚ}

theorem asksDistance_min (host : Host) (read : s.attributes d.json = .ok m)
    (finite : t.value? = some v) (given : m.get? Keyword.minSpawnDistance = some t) :
    s.AsksDistance host d Keyword.minSpawnDistance fun distance => |(v : ℝ)| ≤ distance :=
  ⟨_, checksUnder_single Condition.minSpawnDistance_mem_catalogue read given, fun _ g central =>
    Test.decides_fact
      (Condition.squared_le_iff (AttributeMap.inFormat_of_get? given) finite central) g⟩

theorem asksDistance_max (host : Host) (read : s.attributes d.json = .ok m)
    (finite : t.value? = some v) (given : m.get? Keyword.maxSpawnDistance = some t) :
    s.AsksDistance host d Keyword.maxSpawnDistance fun distance => distance ≤ |(v : ℝ)| :=
  ⟨_, checksUnder_single Condition.maxSpawnDistance_mem_catalogue read given, fun _ g central =>
    Test.decides_fact
      (Condition.le_squared_iff (AttributeMap.inFormat_of_get? given) finite central) g⟩

/-- A minimum and a maximum of the distance from the point where players first appear are compared
by their magnitude. This is to compare the distance with the threshold exactly if the threshold is
not negative. -/
theorem spawn_distance_compared_iff (s : DeclarationSet) (host : Host) {d : Document}
    {m : AttributeMap} (read : s.attributes d.json = .ok m) {t : Single} {v : ℚ}
    (finite : t.value? = some v) :
    (m.get? Keyword.minSpawnDistance = some t →
      (s.AsksDistance host d Keyword.minSpawnDistance fun distance => |(v : ℝ)| ≤ distance) ∧
      ((s.AsksDistance host d Keyword.minSpawnDistance fun distance => (v : ℝ) ≤ distance) ↔
        0 ≤ v)) ∧
    (m.get? Keyword.maxSpawnDistance = some t →
      (s.AsksDistance host d Keyword.maxSpawnDistance fun distance => distance ≤ |(v : ℝ)|) ∧
      ((s.AsksDistance host d Keyword.maxSpawnDistance fun distance => distance ≤ (v : ℝ)) ↔
        0 ≤ v)) := by
  have magnitude (nonneg : 0 ≤ v) : |(v : ℝ)| = v := abs_of_nonneg (by exact_mod_cast nonneg)
  constructor
  · intro given
    have asks := asksDistance_min host read finite given
    refine ⟨asks, fun compares => ?_, fun nonneg => by simpa only [magnitude nonneg] using asks⟩
    -- at no distance at all a negative minimum is reached, but its magnitude is not
    by_contra negative
    have below : (v : ℝ) ≤ 0 := by exact_mod_cast (not_le.1 negative).le
    have zero := abs_nonpos_iff.1 ((asks.agree compares).2 below)
    exact negative (by exact_mod_cast zero.ge)
  · intro given
    have asks := asksDistance_max host read finite given
    refine ⟨asks, fun compares => ?_, fun nonneg => by simpa only [magnitude nonneg] using asks⟩
    have reached := (asks.agree compares).1 (abs_nonneg _)
    exact_mod_cast reached

/-- A document that wants the same distance as a minimum and as a maximum. -/
def ringAt (distance : ℤ) : Document where
  entries := [(Keyword.maxSpawnDistance.name, .number (.integer distance)),
    (Keyword.minSpawnDistance.name, .number (.integer distance))]
  ordered := List.pairwise_pair.2 (show "maxspawndist" < "minspawndist" by decide)

theorem exists_read_ringAt (distance : ℤ) :
    ∃ m, RuleKind.experience.declarations.attributes (ringAt distance).json = .ok m ∧
      m.get? Keyword.minSpawnDistance = some (ofInt distance : Double).convert ∧
      m.get? Keyword.maxSpawnDistance = some (ofInt distance : Double).convert :=
  ⟨_, rfl, rfl, rfl⟩

/-- Integers of up to 24 bits are thresholds as they are. -/
theorem value?_threshold {n : ℤ} (small : n.natAbs < 2 ^ 24) :
    ((ofInt n : Double).convert : Single).value? = some (n : ℚ) := by
  have wide : (ofInt n : Double).value? = some (n : ℚ) := (rounds_ofInt n).value_of_int (by omega)
  exact (rounds_convert wide).value_of_holds (holds_intCast small (by decide) (by decide))

theorem spawn_distance_compared_iff_ring :
    ∃ m t, RuleKind.experience.declarations.attributes (ringAt 10).json = .ok m ∧
      m.get? Keyword.minSpawnDistance = some t ∧ m.get? Keyword.maxSpawnDistance = some t ∧
      t.value? = some ((10 : ℤ) : ℚ) ∧
      (RuleKind.experience.declarations.AsksDistance .bare (ringAt 10) Keyword.minSpawnDistance
        fun distance => (((10 : ℤ) : ℚ) : ℝ) ≤ distance) ∧
      RuleKind.experience.declarations.AsksDistance .bare (ringAt 10) Keyword.maxSpawnDistance
        fun distance => distance ≤ (((10 : ℤ) : ℚ) : ℝ) := by
  obtain ⟨m, read, least, greatest⟩ := exists_read_ringAt 10
  have value := value?_threshold (n := 10) (by decide)
  obtain ⟨lower, upper⟩ :=
    spawn_distance_compared_iff RuleKind.experience.declarations .bare read value
  exact ⟨m, _, read, least, greatest, value, (lower least).2.2 (by norm_num),
    (upper greatest).2.2 (by norm_num)⟩

/-- Ten below zero as a minimum refuses the event at no distance at all, and as a maximum it lets it
pass. -/
theorem negative_threshold_misses :
    ∃ m t low high, RuleKind.experience.declarations.attributes (ringAt (-10)).json = .ok m ∧
      m.get? Keyword.minSpawnDistance = some t ∧ m.get? Keyword.maxSpawnDistance = some t ∧
      t.value? = some ((-10 : ℤ) : ℚ) ∧
      RuleKind.experience.declarations.checksUnder .bare (ringAt (-10))
        Keyword.minSpawnDistance.name = [low] ∧
      RuleKind.experience.declarations.checksUnder .bare (ringAt (-10))
        Keyword.maxSpawnDistance.name = [high] ∧
      Event.atSpawn.Central ∧ Event.atSpawn.spawnDistance = 0 ∧
      ∀ g, (low.test.run .atSpawn g).1 = .ok false ∧ (high.test.run .atSpawn g).1 = .ok true := by
  obtain ⟨m, read, least, greatest⟩ := exists_read_ringAt (-10)
  have refused : (Condition.squared (ofInt (-10) : Double).convert).le
      (Condition.spawnDistanceSquared .atSpawn) = false := by decide +kernel
  have passed : (Condition.spawnDistanceSquared .atSpawn).le
      (Condition.squared (ofInt (-10) : Double).convert) = true := by decide +kernel
  exact ⟨m, _, _, _, read, least, greatest, value?_threshold (n := -10) (by decide),
    checksUnder_single Condition.minSpawnDistance_mem_catalogue read least,
    checksUnder_single Condition.maxSpawnDistance_mem_catalogue read greatest,
    Event.central_atSpawn, Event.spawnDistance_atSpawn,
    fun _ => ⟨congrArg Except.ok refused, congrArg Except.ok passed⟩⟩

end DeclarationSet

end EventRules
