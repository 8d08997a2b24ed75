/-
Faults: what the library cannot go on after. A fault is no report about a document: it ends the
loading or the evaluation in which it arises, and there is no result then.
-/
namespace EventRules

inductive Fault where
  /-- Counts whose sum 32 bits do not hold. -/
  | countOverflow
  /-- Weights whose sum is no finite number. -/
  | endlessWeights
deriving DecidableEq

end EventRules
