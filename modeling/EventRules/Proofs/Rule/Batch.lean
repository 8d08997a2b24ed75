/-
Loading a file, document by document: the rules are those that each document gives by itself, in
order, and the diagnostics are those of each document by itself, under its own name. A document
that gives no rule says why in one error, and neither stops nor renumbers the others. A document at
fault stops all: nothing is loaded, and nothing is reported of the documents behind it. Only spawn
rules can be at fault, and only for equipment whose weights have no finite sum.
-/
import EventRules.Proofs.Rule.Kind
import EventRules.Rule.Load

namespace EventRules

/-- The name of the document at a place in a file. -/
def documentName (file : String) (place : Nat) : String :=
  file ++ "[" ++ Decimal.text place ++ "]"

/-! ## Documents in a row -/

namespace Loaded

variable {α : Type} {build : Json → Reported (Except Fault (Option α))}

/-- What is reported of documents, of each by itself and under the name of its own place. -/
def diagnosticsFrom (file : String) (build : Json → Reported (Except Fault (Option α)))
    (start : Nat) (documents : List Json) : List Diagnostic :=
  (documents.zipIdx start).flatMap fun (document, place) =>
    (build document).reports.map (Report.inDocument (documentName file place))

theorem diagnosticsFrom_cons (file : String) (start : Nat) (document : Json) (rest : List Json) :
    diagnosticsFrom file build start (document :: rest) =
      (build document).reports.map (Report.inDocument (documentName file start)) ++
        diagnosticsFrom file build (start + 1) rest := rfl

theorem ofDocuments_cons_ok {document : Json} {rule : Option α}
    (h : (build document).result = .ok rule) (file : String) (start : Nat) (rest : List Json) :
    ofDocuments file build start (document :: rest) =
      ⟨(ofDocuments file build (start + 1) rest).rules.map (rule.toList ++ ·),
        (build document).reports.map (Report.inDocument (documentName file start)) ++
          (ofDocuments file build (start + 1) rest).diagnostics⟩ := by
  rw [ofDocuments, ofReported, h]
  rfl

theorem ofDocuments_cons_error {document : Json} {fault : Fault}
    (h : (build document).result = .error fault) (file : String) (start : Nat)
    (rest : List Json) :
    ofDocuments file build start (document :: rest) =
      ⟨.error fault,
        (build document).reports.map (Report.inDocument (documentName file start))⟩ := by
  rw [ofDocuments, ofReported, h]
  rfl

/-- Documents that are not at fault are built one by one. -/
theorem ofDocuments_of_ok (file : String) {rule? : Json → Option α} :
    ∀ (start : Nat) {documents : List Json},
      (∀ document ∈ documents, (build document).result = .ok (rule? document)) →
        ofDocuments file build start documents =
          ⟨.ok (documents.filterMap rule?), diagnosticsFrom file build start documents⟩
  | _, [], _ => rfl
  | start, document :: rest, h => by
    obtain ⟨first, others⟩ := List.forall_mem_cons.1 h
    rw [ofDocuments_cons_ok first, ofDocuments_of_ok file (start + 1) others,
      diagnosticsFrom_cons, List.filterMap_cons]
    rcases rule? document with _ | rule <;> rfl

/-- The first document at fault ends it. -/
theorem ofDocuments_of_error (file : String) {document : Json} {fault : Fault}
    (h : (build document).result = .error fault) (later : List Json) :
    ∀ (start : Nat) {before : List Json},
      (∀ earlier ∈ before, ∃ rule, (build earlier).result = .ok rule) →
        ofDocuments file build start (before ++ document :: later) =
          ⟨.error fault, diagnosticsFrom file build start (before ++ [document])⟩
  | start, [], _ => by
    rw [List.nil_append, ofDocuments_cons_error h, List.nil_append, diagnosticsFrom_cons]
    exact congrArg _ (List.append_nil _).symm
  | start, earlier :: before, hb => by
    obtain ⟨⟨rule, first⟩, others⟩ := List.forall_mem_cons.1 hb
    rw [List.cons_append, ofDocuments_cons_ok first, ofDocuments_of_error file h later _ others,
      List.cons_append, diagnosticsFrom_cons]
    rfl

end Loaded

/-! ## Files of a kind -/

namespace RuleKind

/-- The name of the files that hold rules of a kind. -/
def fileName : RuleKind → String
  | .spawn => "spawn.json"
  | .experience => "experience.json"

/-- Loads the text of a file of rules. -/
def loadAll : (kind : RuleKind) → Host → String → Except LoadError (Loaded kind.Rule)
  | .spawn => SpawnRule.loadAll
  | .experience => ExperienceRule.loadAll

/-- What is reported of the documents of a file, of each by itself and under its own name. -/
def diagnostics (kind : RuleKind) (host : Host) (items : List Json) : List Diagnostic :=
  Loaded.diagnosticsFrom kind.fileName (kind.ofDocument host) 0 items

/-- The document ends loading: it is one of spawn rules, it is read, and the weights under one of its
keywords of equipment, as far as they are accepted, have no finite sum. -/
def EndsLoading (kind : RuleKind) (host : Host) (document : Json) : Prop :=
  kind = .spawn ∧ ∃ m, kind.declarations.attributes document = .ok m ∧
    ∃ e ∈ Action.equipmentKeywords,
      WeightedChoice.Endless (Action.weights host.registry (m.getAll e.1))

variable {kind : RuleKind} {host : Host} {document : Json}

theorem loadAll_eq (kind : RuleKind) (host : Host) (text : String) :
    kind.loadAll host text =
      (documents text).map (Loaded.ofDocuments kind.fileName (kind.ofDocument host) 0) := by
  cases kind <;> rfl

theorem loadAll_of_parse {text : String} {items : List Json}
    (parsed : Json.parse text = some (.array items)) (kind : RuleKind) (host : Host) :
    kind.loadAll host text =
      .ok (Loaded.ofDocuments kind.fileName (kind.ofDocument host) 0 items) := by
  rw [loadAll_eq, documents, parsed]
  rfl

theorem ofDocument_eq_error_iff {fault : Fault} :
    (kind.ofDocument host document).result = .error fault ↔
      fault = .endlessWeights ∧ kind.EndsLoading host document := by
  rw [ofDocument_eq, ofDocumentBy_eq_error_iff]
  refine and_congr_right fun _ => ?_
  cases kind with
  | spawn =>
    rw [EndsLoading, and_iff_right rfl]
    simp only [Calm, Action.Calm, not_forall, not_not, exists_prop]
  | experience =>
    refine iff_of_false (fun faults => ?_) fun ends => ?_
    · obtain ⟨m, -, fault⟩ := faults
      exact fault trivial
    · cases ends.1

theorem isOk_ofDocument_iff :
    (kind.ofDocument host document).result.isOk = true ↔ ¬kind.EndsLoading host document := by
  rcases h : (kind.ofDocument host document).result with fault | rule
  · exact iff_of_false nofun fun calm => calm (ofDocument_eq_error_iff.1 h).2
  · refine iff_of_true rfl fun ends => ?_
    rw [ofDocument_eq_error_iff.2 ⟨rfl, ends⟩] at h
    cases h

instance : Decidable (kind.EndsLoading host document) :=
  decidable_of_iff (¬(kind.ofDocument host document).result.isOk = true)
    (isOk_ofDocument_iff.not.trans not_not)

theorem result_ofDocument_of_calm (h : ¬kind.EndsLoading host document) :
    (kind.ofDocument host document).result = .ok (kind.rule? host document) := by
  rcases made : (kind.ofDocument host document).result with fault | rule
  · exact absurd (ofDocument_eq_error_iff.1 made).2 h
  · rw [rule?, made]
    rfl

/-- A document that gives no rule is malformed, and that is all that is reported of it. -/
theorem reports_of_no_rule (h : (kind.ofDocument host document).result = .ok none) :
    ∃ p : Problem, p.Malformed ∧ (kind.ofDocument host document).reports = [⟨.error, p⟩] := by
  rw [ofDocument_eq] at h
  obtain ⟨p, read⟩ := ofDocumentBy_eq_none_iff.1 h
  refine ⟨p, kind.declarations.failsOnly_attributes document p read, ?_⟩
  rw [ofDocument_of_refused read]

/-- A text that is a JSON list of documents, of which none ends loading, gives the rules that each
document gives by itself and what is reported of each by itself, under the name made of its place; a
document without a rule contributes one error, that it is malformed. The first document that ends
loading leaves no rule at all, and what is reported up to there. Any other text is refused before
anything is built, and the refusal is all there is. -/
theorem loadAll_by_document (kind : RuleKind) (host : Host) (text : String) :
    (∀ items, Json.parse text = some (.array items) →
      ∃ loaded, kind.loadAll host text = .ok loaded ∧
        ((∀ document ∈ items, ¬kind.EndsLoading host document) →
          loaded.rules = .ok (items.filterMap (kind.rule? host)) ∧
          loaded.diagnostics = kind.diagnostics host items) ∧
        (∀ before document after, items = before ++ document :: after →
          (∀ earlier ∈ before, ¬kind.EndsLoading host earlier) →
          kind.EndsLoading host document →
            loaded.rules = .error .endlessWeights ∧
            loaded.diagnostics = kind.diagnostics host (before ++ [document]))) ∧
    (∀ document, kind.rule? host document = none → ¬kind.EndsLoading host document →
      ∃ p : Problem, p.Malformed ∧
        (kind.ofDocument host document).reports = [⟨.error, p⟩]) ∧
    ((∀ items, Json.parse text ≠ some (.array items)) →
      kind.loadAll host text =
        .error (if (Json.parse text).isNone then .notJson else .notAList)) := by
  refine ⟨fun items parsed => ⟨_, loadAll_of_parse parsed kind host, fun calm => ?_, ?_⟩,
    fun document none calm => ?_, fun other => ?_⟩
  · rw [Loaded.ofDocuments_of_ok _ 0 fun document there =>
      result_ofDocument_of_calm (calm document there)]
    exact ⟨rfl, rfl⟩
  · rintro before document after rfl calm ends
    rw [Loaded.ofDocuments_of_error _ (ofDocument_eq_error_iff.2 ⟨rfl, ends⟩) after 0
      fun earlier there => ⟨_, result_ofDocument_of_calm (calm earlier there)⟩]
    exact ⟨rfl, rfl⟩
  · refine reports_of_no_rule ?_
    rw [result_ofDocument_of_calm calm, none]
  · rw [loadAll_eq, documents]
    rcases parsed : Json.parse text with _ | v
    · rfl
    · cases v with
      | array items => exact absurd parsed (other items)
      | _ => rfl

/-- No document at all, a good one, and two whose values are malformed. -/
def mixedText : String :=
  "[5,\x7b\"maxlight\":7\x7d,\x7b\"random\":[1]\x7d,\x7b\"maxlight\":\"dark\"\x7d]"

theorem loadAll_by_document_mixed :
    (∃ loaded rules, spawn.loadAll .bare mixedText = .ok loaded ∧ loaded.rules = .ok rules ∧
      rules.length = 1 ∧ loaded.diagnostics.map Diagnostic.document =
        ["spawn.json[0]", "spawn.json[2]", "spawn.json[3]"]) ∧
    (∃ p : Problem, p.Malformed ∧
      (spawn.ofDocument .bare (.number (.integer 5))).reports = [⟨.error, p⟩]) ∧
    spawn.loadAll .bare "7" = .error .notAList := by
  obtain ⟨files, documents, -⟩ := loadAll_by_document spawn .bare mixedText
  obtain ⟨loaded, ok, built, -⟩ := files
    [.number (.integer 5), .object [("maxlight", .number (.integer 7))],
      .object [("random", .array [.number (.integer 1)])],
      .object [("maxlight", .string "dark")]] rfl
  obtain ⟨rules, diagnostics⟩ := built (by decide +kernel)
  have number : Json.parse "7" = some (.number (.integer 7)) := rfl
  have none : spawn.rule? .bare (.number (.integer 5)) = none := rfl
  refine ⟨⟨loaded, _, ok, rules, ?_, ?_⟩, documents _ none (by decide +kernel), ?_⟩
  · decide +kernel
  · rw [diagnostics]
    decide +kernel
  · obtain ⟨-, -, others⟩ := loadAll_by_document spawn .bare "7"
    rw [others (by rw [number]; nofun), number]
    rfl

/-- A bow whose weight is beyond the numbers of 32 bits. -/
def endlessText : String :=
  "[\x7b\"helditem\":\x7b\"item\":\"minecraft:bow\",\"weight\":1e39\x7d\x7d]"

/-- One weight too large ends the loading of the file, where other unusable weights are reported. -/
theorem endless_weights_stop_loading :
    ∃ items, Json.parse endlessText = some (.array items) ∧
      ∃ loaded, spawn.loadAll .bare endlessText = .ok loaded ∧
        loaded.rules = .error .endlessWeights ∧ loaded.diagnostics = [] := by
  have parsed : ∃ bow, Json.parse endlessText = some (.array [bow]) ∧
      spawn.EndsLoading .bare bow ∧ (spawn.ofDocument .bare bow).reports = [] :=
    ⟨_, rfl, by decide +kernel, by decide +kernel⟩
  obtain ⟨bow, parsed, ends, silent⟩ := parsed
  refine ⟨_, parsed, _, loadAll_of_parse parsed spawn .bare, ?_⟩
  rw [Loaded.ofDocuments_cons_error (ofDocument_eq_error_iff.2 ⟨rfl, ends⟩), silent]
  exact ⟨rfl, rfl⟩

end RuleKind

end EventRules
