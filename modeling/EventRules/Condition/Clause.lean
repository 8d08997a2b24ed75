/-
Clauses: how one keyword of a rule document becomes a check. A clause takes the values under its
keyword out of the document, and with them a companion value if it names one; it looks at nothing
else, so what it builds and reports does not depend on other keywords. Where it needs an integration
that is not there, it warns and builds nothing.
-/
import EventRules.Attribute.Map
import EventRules.Condition.Alternatives
import EventRules.World.Host
import EventRules.Check
namespace EventRules

/-! ## Taking values -/

/-- Whether a clause takes the first value under its keyword or every one. -/
inductive Intake where
  | first (t : ValueType)
  | every (t : ValueType)

namespace Intake

def Carrier : Intake → Type
  | .first t => t.Carrier
  | .every t => List t.Carrier

/-- What a clause takes from under a name, and the map without the name. -/
def takeFrom : (i : Intake) → String → AttributeMap → Option i.Carrier × AttributeMap
  | .first t, name, m => m.take (⟨name⟩ : Key t)
  | .every t, name, m => m.takeAll (⟨name⟩ : Key t)

end Intake

/-! ## Clauses -/

structure Clause where
  keyword : String
  intake : Intake
  companion : Option (Key .json) := none
  needs : Option Capability := none
  build : Host → intake.Carrier → Option Json → Reported (Option Test)

namespace Clause

/-- The test built from what was taken, if the integration it needs is there. -/
def test (c : Clause) (host : Host) (input : c.intake.Carrier) (companion : Option Json) :
    Reported (Option Test) :=
  match c.needs with
  | none => c.build host input companion
  | some capability =>
    if host.integrations.has capability then c.build host input companion
    else do
      Reported.warn (.missingCapability capability c.keyword)
      return none

/-- The value under the companion, if the clause has one, and the map without it. -/
def takeCompanion (c : Clause) (m : AttributeMap) : Option Json × AttributeMap :=
  match c.companion with
  | none => (none, m)
  | some key => m.take key

/-- The check a document gets from a clause, none if the keyword is not there, and the map without
what the clause took. The companion is taken along with the keyword, never alone. -/
def compile (c : Clause) (host : Host) (m : AttributeMap) :
    Reported (Option Check × AttributeMap) :=
  match c.intake.takeFrom c.keyword m with
  | (none, m) => pure (none, m)
  | (some input, m) => do
    let (companion, m) := c.takeCompanion m
    let test ← c.test host input companion
    return (test.map fun t => ⟨c.keyword, t⟩, m)

/-! ## Common forms -/

variable {t : ValueType}

/-- A clause on the first value. -/
def single (key : Key t) (holds : t.Carrier → Event → Bool) : Clause where
  keyword := key.name
  intake := .first t
  build := fun _ v _ => pure (some (.fact (holds v)))

/-- A clause on the first value that may find it unusable. -/
def singleOr (key : Key t) (read : t.Carrier → Except Problem (Event → Bool)) : Clause where
  keyword := key.name
  intake := .first t
  build := fun _ v _ => do
    let holds ← Reported.ofExcept (read v)
    return holds.map .fact

/-- A clause on the first value that asks an integration. -/
def integrated (capability : Capability) (key : Key t)
    (read : Integrations → t.Carrier → Except Problem (Event → Bool)) : Clause where
  keyword := key.name
  intake := .first t
  needs := some capability
  build := fun host v _ => do
    let holds ← Reported.ofExcept (read host.integrations v)
    return holds.map .fact

/-- A clause that some value, brought to what events are asked for, is what this event has. No
value is no condition. -/
def oneOf {α : Type} [BEq α] (key : Key .string) (read : String → α) (subject : Event → α) :
    Clause where
  keyword := key.name
  intake := .every .string
  build := fun _ (names : List String) _ =>
    pure <| (Alternatives.of? (names.map read)).map fun values =>
      .fact fun e => values.contains (subject e)

end Clause

end EventRules
