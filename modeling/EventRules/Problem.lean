/-
What can be wrong with a rule document: the causes, their wording, and how they are reported. A
report never stops the loading of rules; what is wrong is left out and told.
-/
import EventRules.Attribute.Value
namespace EventRules

/-! ## Integrations -/

/-- The optional integrations that some conditions need. -/
inductive Capability where
  | seasons | gameStages | lostCities | baubles | enigmaScript
deriving DecidableEq

def Capability.text : Capability → String
  | .seasons => "Serene Seasons"
  | .gameStages => "Game Stages"
  | .lostCities => "The Lost Cities"
  | .baubles => "Baubles"
  | .enigmaScript => "EnigmaScript"

/-! ## Causes -/

/-- The kinds of rules. -/
inductive RuleKind where
  | spawn | experience
deriving DecidableEq

def RuleKind.text : RuleKind → String
  | .spawn => "spawn"
  | .experience => "experience"

/-- Contradictions inside a count description. -/
inductive CountConflict where
  | perChunkAndPerPlayer | modAndMob | passiveAndHostile | categoryAndMob
deriving DecidableEq

def CountConflict.text : CountConflict → String
  | .perChunkAndPerPlayer => "cannot combine 'perchunk' and 'perplayer'"
  | .modAndMob => "cannot combine 'mod' with 'mob'"
  | .passiveAndHostile => "cannot use 'passive' and 'hostile' together"
  | .categoryAndMob => "cannot combine 'passive' or 'hostile' with 'mob'"

/-- A problem in a rule document. -/
inductive Problem where
  | notAnObject
  | expectedSingle (key : String)
  | invalidValue (key : String) (expected : ValueType) (found : String)
  | invalidKeywords (rule : RuleKind) (keys : List String)
  | unknownEntity (name : String)
  | unknownBlock (name : String)
  | unknownItem (name : String)
  | unknownEffect (name : String)
  | unknownDifficulty (name : String)
  | unknownWeather (name : String)
  | unknownBiomeType (name : String)
  | unknownSide (name : String)
  | badExpression (text : String)
  | badCount (description reason : String)
  | invalidCount (conflict : CountConflict)
  | badDayCount (key : String) (value : Int32)
  | badStateSpecifier (text : String)
  | badItemDescription (text : String)
  | badBlockDescription (text : String)
  | badBlockOffset (text : String)
  | badTagMatcher (text : String)
  | badTag (text : String)
  | badPotion (text : String)
  | missingCapability (capability : Capability) (key : String)
  | oreDictionary (name : String)
deriving DecidableEq

/-- A text between apostrophes, as messages quote what they are about. -/
def Problem.quote (s : String) : String := "'" ++ s ++ "'"

/-- The wording of a problem. -/
def Problem.message : Problem → String
  | .notAnObject => "rule document is not a JSON object"
  | .expectedSingle key => "keyword " ++ quote key ++ " takes a single value, not a list"
  | .invalidValue key expected found =>
    "keyword " ++ quote key ++ " expects " ++ expected.text ++ ", got " ++ found
  | .invalidKeywords rule keys =>
    "invalid keywords in " ++ rule.text ++ " rule: " ++ " ".intercalate keys
  | .unknownEntity name => "unknown mob " ++ quote name
  | .unknownBlock name => "block " ++ quote name ++ " is not valid"
  | .unknownItem name => "unknown item " ++ quote name
  | .unknownEffect name => "unknown potion effect " ++ quote name
  | .unknownDifficulty name =>
    "unknown difficulty " ++ quote name ++
      "; use one of 'easy', 'normal', 'hard' or 'peaceful'"
  | .unknownWeather name => "unknown weather " ++ quote name ++ "; use 'rain' or 'thunder'"
  | .unknownBiomeType name => "unknown biome type " ++ quote name
  | .unknownSide name => "unknown side " ++ quote name
  | .badExpression text => "bad expression " ++ quote text
  | .badCount description reason =>
    "count description " ++ quote description ++ " is not valid: " ++ reason
  | .invalidCount conflict => conflict.text
  | .badDayCount key value =>
    quote key ++ " must be a positive number of days, got " ++ Decimal.text value.toInt
  | .badStateSpecifier text => "bad state=value specifier " ++ quote text
  | .badItemDescription text => "item description " ++ quote text ++ " is not valid"
  | .badBlockDescription text => "block description " ++ quote text ++ " is not valid"
  | .badBlockOffset text => "block offset " ++ quote text ++ " is not valid"
  | .badTagMatcher text => "tag matcher " ++ quote text ++ " is not valid"
  | .badTag text => "bad tag compound " ++ quote text
  | .badPotion text =>
    "bad potion specifier " ++ quote text ++ "; use 'effect,duration,amplifier'"
  | .missingCapability capability key =>
    capability.text ++ " is missing: the " ++ quote key ++ " test cannot work"
  | .oreDictionary name =>
    "ore dictionary matching is not supported: " ++ quote name ++ " never matches"

/-! ## Reports -/

/-- A warning is about something that may well be so where the rules are used, such as an
integration that is not installed. -/
inductive Severity where
  | error | warning
deriving DecidableEq

/-- A problem with its severity. -/
structure Report where
  severity : Severity
  problem : Problem
deriving DecidableEq

/-- A report about a named document. -/
structure Diagnostic where
  document : String
  severity : Severity
  problem : Problem
deriving DecidableEq

def Diagnostic.text (d : Diagnostic) : String :=
  let lead := match d.severity with
    | .error => "error in "
    | .warning => "warning in "
  lead ++ d.document ++ ": " ++ d.problem.message

def Report.inDocument (document : String) (r : Report) : Diagnostic :=
  ⟨document, r.severity, r.problem⟩

/-! ## Results with reports -/

/-- A result together with what was reported on the way to it, in order. -/
structure Reported (α : Type) where
  reports : List Report
  result : α

namespace Reported

variable {α β : Type}

def bind (r : Reported α) (f : α → Reported β) : Reported β :=
  let next := f r.result
  ⟨r.reports ++ next.reports, next.result⟩

instance : Monad Reported where
  pure a := ⟨[], a⟩
  bind := bind

/-- Reports an error. -/
def error (p : Problem) : Reported Unit := ⟨[⟨.error, p⟩], ()⟩

/-- Reports a warning. -/
def warn (p : Problem) : Reported Unit := ⟨[⟨.warning, p⟩], ()⟩

/-- A result that may have failed: a failure is reported as an error and leaves nothing. -/
def orReport (r : Reported (Except Problem α)) : Reported (Option α) :=
  match r.result with
  | .ok a => ⟨r.reports, some a⟩
  | .error p => ⟨r.reports ++ [⟨.error, p⟩], none⟩

/-- A result that may have failed, with nothing else to report. -/
def ofExcept : Except Problem α → Reported (Option α)
  | .ok a => ⟨[], some a⟩
  | .error p => ⟨[⟨.error, p⟩], none⟩

end Reported

end EventRules
