/-
Weighted choices. The weights add up in their order; a random number from zero up to their sum falls
between two of the partial sums, and that is where the choice is. An entry whose weight is zero adds
nothing to the partial sums, so nothing falls to it. Where the sum is no finite number there is no
random number to draw, which is a fault.
-/
import EventRules.Fault
import EventRules.Generator
namespace EventRules

/-- Entries with weights, none of them negative and not all zero, and with a finite sum. -/
structure WeightedChoice (α : Type) where
  entries : List (α × Single)

namespace WeightedChoice

variable {α : Type}

/-- The partial sums of the weights after the first, `total` being the sum so far: one for each
entry but the last, and then the whole sum. -/
def sums (total : Single) : List Single → List Single × Single
  | [] => ([], total)
  | w :: rest =>
    let (inner, whole) := sums (total + w) rest
    (total :: inner, whole)

/-- The partial sums of all weights but the last, and the sum of all. -/
def cumulative : List Single → List Single × Single
  | [] => ([], .zero false)
  | w :: rest => sums w rest

/-- The choice among entries, none if their weights allow no choice. -/
def ofEntries (entries : List (α × Single)) : Except Fault (Option (WeightedChoice α)) :=
  let weights := entries.map (·.2)
  let zero : Single := .zero false
  let whole := (cumulative weights).2
  if weights.isEmpty || !weights.all zero.le || whole.same zero then .ok none
  else if whole.isFinite then .ok (some ⟨entries⟩)
  else .error .endlessWeights

/-- The place among the entries that a word chooses: the number of leading partial sums not above
the random number. The product never rounds to more than the whole sum, so it is taken as it is. -/
def index (c : WeightedChoice α) (w : UInt32) : Nat :=
  let (partials, whole) := cumulative (c.entries.map (·.2))
  let drawn := Generator.coarseFraction w * whole
  (partials.takeWhile (·.le drawn)).length

/-- The entry that a word chooses. -/
def choose? (c : WeightedChoice α) (w : UInt32) : Option α :=
  (c.entries[c.index w]?).map (·.1)

end WeightedChoice

end EventRules
