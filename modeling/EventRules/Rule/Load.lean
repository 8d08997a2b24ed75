/-
Loading rule files. A file is a JSON list of documents; each document is built on its own, under a
name made of the file's name and its place in the list, and one that yields no rule is left out. A
fault in a document ends the loading of the whole file.
-/
import EventRules.Json.Reader
import EventRules.Rule.Experience
import EventRules.Rule.Spawn
namespace EventRules

/-! ## Files -/

/-- Why a whole file cannot be loaded. -/
inductive LoadError where
  | unreadable
  | notJson
  | notAList
deriving DecidableEq

/-- The wording of an error that is not about the file's bytes or syntax. -/
def LoadError.message? : LoadError → Option String
  | .notAList => some "rule file must contain a JSON array of rules"
  | _ => none

/-- The documents in the text of a rule file. -/
def documents (text : String) : Except LoadError (List Json) :=
  match Json.parse text with
  | none => .error .notJson
  | some (.array items) => .ok items
  | some _ => .error .notAList

/-- The text of a file's bytes; a missing file or bytes that are not UTF-8 cannot be read. -/
def fileText (bytes : Option ByteArray) : Except LoadError String :=
  match bytes.bind String.fromUTF8? with
  | some text => .ok text
  | none => .error .unreadable

/-! ## Documents -/

/-- Rules with the diagnostics of the documents they were built from. -/
structure Loaded (α : Type) where
  /-- The rules, if no document has a fault. -/
  rules : Except Fault (List α)
  /-- What is wrong with the documents, as far as they were built. -/
  diagnostics : List Diagnostic

/-- A rule built from a named document, if there is one. -/
def Loaded.ofReported {α : Type} (name : String) (r : Reported (Except Fault (Option α))) :
    Loaded α :=
  ⟨r.result.map Option.toList, r.reports.map (Report.inDocument name)⟩

/-- The rules of documents whose place in the list starts at `start`. Nothing is built of those
behind a document with a fault. -/
def Loaded.ofDocuments {α : Type} (file : String)
    (build : Json → Reported (Except Fault (Option α))) : Nat → List Json → Loaded α
  | _, [] => ⟨.ok [], []⟩
  | start, document :: rest =>
    let name := file ++ "[" ++ Decimal.text start ++ "]"
    let first := ofReported name (build document)
    match first.rules with
    | .error _ => first
    | .ok rules =>
      let others := ofDocuments file build (start + 1) rest
      ⟨others.rules.map (rules ++ ·), first.diagnostics ++ others.diagnostics⟩

/-! ## The two kinds of rules -/

/-- Loads the text of a file of spawn rules. -/
def SpawnRule.loadAll (host : Host) (text : String) : Except LoadError (Loaded SpawnRule) :=
  (documents text).map <|
    Loaded.ofDocuments "spawn.json" (SpawnRule.ofDocument SpawnRule.declarations host) 0

/-- Loads the text of a file of experience rules. -/
def ExperienceRule.loadAll (host : Host) (text : String) :
    Except LoadError (Loaded ExperienceRule) :=
  (documents text).map <|
    Loaded.ofDocuments "experience.json"
      (fun document => .ok <$> ExperienceRule.ofDocument ExperienceRule.declarations host document) 0

end EventRules
