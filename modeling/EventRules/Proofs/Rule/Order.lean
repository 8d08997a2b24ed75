/-
The order of checks. One fixed list of keywords says it, whatever a document contains: its checks
stand in that order, one for a keyword at most, and each for a keyword that is declared and that the
document has. A check that fails is reported by its keyword, and those behind it are not evaluated,
so the order is what a report means.
-/
import EventRules.Proofs.Condition.Form
import EventRules.Proofs.Rule.Kind

namespace EventRules

namespace Condition

/-- The keywords of checks in the order of evaluation. -/
def order : List String :=
  ["random", "dimension", "dimensionmod", "mintime", "maxtime", "minheight", "maxheight", "weather",
    "category", "difficulty", "minspawndist", "maxspawndist", "minlight", "maxlight",
    "mindifficulty", "maxdifficulty", "seesky", "block", "biome", "biometype", "helmet",
    "chestplate", "leggings", "boots", "playerhelditem", "helditem", "offhanditem",
    "bothhandsitem", "structure", "state", "pstate", "summer", "winter", "spring", "autumn",
    "gamestage", "incity", "instreet", "insphere", "inbuilding", "amulet", "ring", "belt",
    "trinket", "head", "body", "charm", "hostile", "passive", "canspawnhere", "notcolliding",
    "spawner", "incontrol", "mob", "player", "realplayer", "fakeplayer", "explosion", "projectile",
    "fire", "magic", "source", "mod", "mincount", "maxcount", "daycount", "mindaycount",
    "maxdaycount"]

theorem keywords_catalogue : catalogue.map Clause.keyword = order := rfl

variable {host : Host} {m : AttributeMap} {name : String}

/-- Each clause adds one check at most, under its own keyword, behind those of the clauses before
it. -/
theorem sublist_keywords_checksBy (host : Host) (m : AttributeMap) (clauses : List Clause) :
    ((checksBy host m clauses).result.map Check.keyword).Sublist (clauses.map Clause.keyword) := by
  rw [result_checksBy]
  induction clauses with
  | nil => exact List.Sublist.slnil
  | cons c rest ih =>
    rw [List.filterMap_cons, List.map_cons]
    rcases h : (c.check host m).result with _ | check
    · exact ih.cons c.keyword
    · rw [List.map_cons, Clause.keyword_of_check h]
      exact ih.cons_cons c.keyword

theorem sublist_keywords_checks (host : Host) (m : AttributeMap) :
    ((checks host m).result.map Check.keyword).Sublist order := by
  have own := sublist_keywords_checksBy host m catalogue
  rw [keywords_catalogue] at own
  exact own

/-- A check is made of values under its keyword. -/
theorem filed_of_mem_keywords (h : name ∈ (checks host m).result.map Check.keyword) :
    (m.values.get? name).isSome = true := by
  rw [checks, result_checksBy] at h
  obtain ⟨check, made, rfl⟩ := List.mem_map.1 h
  obtain ⟨c, -, made⟩ := List.mem_filterMap.1 made
  rw [Clause.keyword_of_check made, Option.isSome_iff_ne_none]
  intro absent
  rw [Clause.check_of_absent absent] at made
  cases made

end Condition

namespace RuleKind

variable {kind : RuleKind} {host : Host} {m : AttributeMap} {name : String}

/-- No keyword that equips the entity stands for a check of a spawn rule. -/
theorem heldItem_not_checked (m : AttributeMap) :
    Keyword.heldItem.name ∉
      (Condition.checks host (spawn.conditions m)).result.map Check.keyword := by
  intro checked
  have filed := Condition.filed_of_mem_keywords checked
  rw [values_conditions, if_pos ⟨rfl, rfl⟩] at filed
  cases filed

theorem filed_of_mem_conditions
    (h : name ∈ (Condition.checks host (kind.conditions m)).result.map Check.keyword) :
    (m.values.get? name).isSome = true := by
  have filed := Condition.filed_of_mem_keywords h
  rw [Option.isSome_iff_ne_none] at filed ⊢
  intro absent
  exact filed (values_conditions_none absent)

/-- The checks of a rule, read from a document by any declarations, are in the one fixed order and
do not repeat; each is for a declared keyword of the document, and for a spawn rule none is for the
item that equips the entity. -/
theorem checks_in_order (kind : RuleKind) (s : DeclarationSet) (host : Host) {d : Document}
    {r : kind.Rule} (h : (kind.ofDocumentBy s host d.json).result = .ok (some r)) :
    ((kind.checks r).map Check.keyword).Sublist Condition.order ∧
    ((kind.checks r).map Check.keyword).Nodup ∧
    (∀ name ∈ (kind.checks r).map Check.keyword,
      (s.get? name).isSome = true ∧ (d.get? name).isSome = true) ∧
    (kind = .spawn → "helditem" ∉ (kind.checks r).map Check.keyword) := by
  obtain ⟨m, hm, -, rfl⟩ := ofDocumentBy_eq_some_iff.1 h
  rw [checks_ruleOf]
  have ordered := Condition.sublist_keywords_checks host (kind.conditions m)
  refine ⟨ordered, ?_, fun name checked => ?_, ?_⟩
  · exact ordered.nodup (Condition.keywords_catalogue ▸ Condition.nodup_keywords)
  · have filed := filed_of_mem_conditions checked
    rw [DeclarationSet.isSome_values_attributes hm, Bool.and_eq_true] at filed
    exact ⟨filed.2, filed.1⟩
  · rintro rfl
    exact heldItem_not_checked m

/-- Conditions written against the order, and an item that equips the entity. -/
def nightDocument : Document :=
  Dict.ofPairs [(Keyword.mob.name, .string "zombie"), (Keyword.maxLight.name, .number (.integer 7)),
    (Keyword.heldItem.name, .string "minecraft:bow"), (Keyword.random.name, .string "0.5"),
    (Keyword.winter.name, .bool true)]

theorem checks_in_order_night :
    ∃ r, (spawn.ofDocumentBy spawn.declarations .bare nightDocument.json).result = .ok (some r) ∧
      (spawn.checks r).map Check.keyword = ["random", "maxlight", "mob"] ∧
      ["random", "maxlight", "mob"].Sublist Condition.order ∧
      "helditem" ∉ (spawn.checks r).map Check.keyword := by
  have loads : (spawn.rule? .bare nightDocument.json).map
      (fun r => (spawn.checks r).map Check.keyword) = some ["random", "maxlight", "mob"] := by
    decide +kernel
  obtain ⟨r, h, keywords⟩ := exists_rule_of_map loads
  rw [ofDocument_eq] at h
  obtain ⟨ordered, -, -, held⟩ := checks_in_order spawn spawn.declarations .bare h
  exact ⟨r, h, keywords, keywords ▸ ordered, held rfl⟩

end RuleKind

end EventRules
