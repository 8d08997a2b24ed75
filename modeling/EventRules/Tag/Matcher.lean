/-
Conditions on compounds: an integer under a name satisfies a range expression, or some compound in
the list under a name satisfies further conditions. They are written as a JSON list of entries with
the fields `tag`, `value` and `contains`.
-/
import EventRules.Tag.Basic
import EventRules.Specifier.RangeJson
import EventRules.Json.Record
namespace EventRules

/-! ## Conditions -/

/-- A condition on a compound. -/
inductive TagMatcher where
  | value (tag : String) (expr : RangeExpr)
  | contains (tag : String) (matchers : List TagMatcher)

namespace TagMatcher

mutual

/-- Whether a compound satisfies the condition. -/
def accepts : TagMatcher → Compound → Bool
  | .value tag expr, c => expr.test (c.int tag).toInt64
  | .contains tag matchers, c => (c.compounds tag).any fun element => allAccept matchers element
termination_by structural m => m

def allAccept : List TagMatcher → Compound → Bool
  | [], _ => true
  | m :: rest, c => m.accepts c && allAccept rest c
termination_by structural ms => ms

end

/-- A compound that is not there satisfies nothing. -/
def test (m : TagMatcher) : Option Compound → Bool
  | none => false
  | some c => m.accepts c

end TagMatcher

/-! ## Entries -/

/-- An entry of a written list, its value not yet read. -/
inductive TagEntry where
  | mk (tag : String) (value : Option Json) (contains : Option (List TagEntry))

namespace TagEntry

/-- A value that may be given as null or not at all. -/
def given : Option Json → Option Json
  | some .null => none
  | v => v

mutual

/-- One entry, as an object or as an array of its fields. -/
def ofJson : Json → Option TagEntry
  | .object members => do
    let tag ← (← Entries.find? "tag" members).string?
    let nested ← ofMembers members
    return .mk tag (given (Entries.find? "value" members)) nested
  | .array [tag] => do return .mk (← tag.string?) none none
  | .array [tag, value] => do return .mk (← tag.string?) (given (some value)) none
  | .array [tag, value, nested] => do
    let tag ← tag.string?
    let nested ← nestedOfJson nested
    return .mk tag (given (some value)) nested
  | _ => none
termination_by structural v => v

/-- The `contains` field among the members of an entry. -/
def ofMembers : List (String × Json) → Option (Option (List TagEntry))
  | [] => some none
  | (name, v) :: rest => if name = "contains" then nestedOfJson v else ofMembers rest
termination_by structural ms => ms

/-- A `contains` field: null, or a list of entries. -/
def nestedOfJson : Json → Option (Option (List TagEntry))
  | .null => some none
  | .array items => (allOfJson items).map some
  | _ => none
termination_by structural v => v

/-- A list of entries. -/
def allOfJson : List Json → Option (List TagEntry)
  | [] => some []
  | v :: rest => do
    let entry ← ofJson v
    let entries ← allOfJson rest
    return entry :: entries
termination_by structural vs => vs

end

mutual

/-- The condition an entry stands for; `contains` goes before `value`. -/
def matcher : TagEntry → Except Problem TagMatcher
  | .mk tag _ (some nested) => do return .contains tag (← matchers nested)
  | .mk tag (some v) none => do return .value tag (← RangeExpr.ofJson v)
  | .mk tag none none => .error (.badTagMatcher tag)
termination_by structural e => e

def matchers : List TagEntry → Except Problem (List TagMatcher)
  | [] => .ok []
  | e :: rest => do
    let m ← e.matcher
    let ms ← matchers rest
    return m :: ms
termination_by structural es => es

end

end TagEntry

/-- The conditions of a written list. -/
def TagMatcher.listOfJson : Json → Except Problem (List TagMatcher)
  | .array items =>
    match TagEntry.allOfJson items with
    | some entries => TagEntry.matchers entries
    | none => .error (.badTagMatcher (Json.array items).print)
  | v => .error (.badTagMatcher v.print)

end EventRules
