/-
What rules of both kinds have besides their checks: an outcome for the event, and the phases they
are restricted to.
-/
import EventRules.Attribute.Declaration
import EventRules.Attribute.Keyword
namespace EventRules

/-! ## Outcomes -/

/-- What a rule makes of the event it matched. -/
inductive Outcome where
  | allow | deny | default
deriving DecidableEq

namespace Outcome

def text : Outcome → String
  | .allow => "allow"
  | .deny => "deny"
  | .default => "default"

/-- The outcome a keyword stands for: whatever begins with `def` keeps the default, `allow` and
`true` allow, all else denies. -/
def ofKeyword (word : String) : Outcome :=
  if ['d', 'e', 'f'].isPrefixOf word.toList then .default
  else if word = "allow" ∨ word = "true" then .allow
  else .deny

end Outcome

/-! ## Phases -/

/-- The phases a rule is restricted to. -/
structure Phases where
  names : NameSet
deriving DecidableEq

namespace Phases

def ofList (names : List String) : Phases := ⟨NameSet.ofList names⟩

def toList (p : Phases) : List String := p.names.keys

def isEmpty (p : Phases) : Bool := p.names.isEmpty

/-- Whether every phase of the rule is active; a rule without phases always applies. -/
def appliesIn (p : Phases) (active : List String) : Bool := p.toList.all active.contains

end Phases

/-! ## Reading a document -/

/-- The attributes of a document with the phases it names; a malformed document is reported. -/
def documentAttributes (declarations : DeclarationSet) (document : Json) :
    Reported (Option (AttributeMap × Phases)) :=
  Reported.ofExcept <| (declarations.attributes document).map fun m =>
    (m, Phases.ofList (m.getAll Keyword.phase))

/-- Reports the keywords that are left, all in one error. -/
def reportLeftovers (kind : RuleKind) (m : AttributeMap) : Reported Unit :=
  if m.isEmpty then pure () else Reported.error (.invalidKeywords kind m.keys)

end EventRules
