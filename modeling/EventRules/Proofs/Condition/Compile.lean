/-
What a list of clauses makes of a document, clause by clause, read off the document as a whole: every
clause adds its own check and its own reports, and depends on nothing but the values under its
keyword and, if it has one, under its companion. Compiling comes to the same and takes these names
out of the document, since no two clauses take the same name. Where the values of a document are
divided between two others, its checks are those of the two together.
-/
import EventRules.Condition.Catalogue
import EventRules.Proofs.Attribute.Map
import EventRules.Proofs.Check.Evaluation

namespace EventRules

/-! ## Single clauses -/

/-- What is taken from the values under a keyword: nothing, if the first value cannot be read. -/
def Intake.take : (i : Intake) → List Json → Option i.Carrier
  | .first t, values => values.head?.bind t.extract
  | .every t, values => some (values.filterMap t.extract)

/-- What a clause takes is made of the values under its name. -/
theorem Intake.takeFrom_eq (i : Intake) (name : String) (m : AttributeMap) :
    i.takeFrom name m = ((m.values.get? name).bind i.take, m.drop name) := by
  cases i with
  | first t =>
    refine congrArg (·, m.drop name) ?_
    show ((m.values.get? name).getD []).head?.bind t.extract = _
    rcases m.values.get? name with _ | values <;> rfl
  | every t =>
    refine congrArg (·, m.drop name) ?_
    show (m.values.get? name).map _ = _
    rcases m.values.get? name with _ | values <;> rfl

namespace Clause

/-- The names under which a clause looks. -/
def names (c : Clause) : List String := c.keyword :: (c.companion.map Key.name).toList

/-- The check a document gets from a clause, none if the keyword is not there. -/
def check (c : Clause) (host : Host) (m : AttributeMap) : Reported (Option Check) :=
  match (m.values.get? c.keyword).bind c.intake.take with
  | none => pure none
  | some input => do
    let test ← c.test host input (c.companion.bind m.get?)
    return test.map fun t => ⟨c.keyword, t⟩

/-- The names a clause takes out of a document: the companion only along with the keyword. -/
def consumed (c : Clause) (m : AttributeMap) : List String :=
  if ((m.values.get? c.keyword).bind c.intake.take).isSome then c.names else [c.keyword]

theorem mem_names_of_consumed {c : Clause} {m : AttributeMap} {name : String}
    (h : name ∈ c.consumed m) : name ∈ c.names := by
  unfold consumed at h
  split at h
  · exact h
  · rw [List.mem_singleton.1 h]
    exact List.mem_cons_self

end Clause

/-! ## What a clause depends on -/

namespace Clause

variable {c : Clause} {host : Host} {m m' : AttributeMap}

/-- The integration that a clause needs and the host lacks. -/
def lacking (c : Clause) (host : Host) : Option Capability :=
  c.needs.filter fun capability => !host.integrations.has capability

theorem test_of_supported (h : c.lacking host = none) {input : c.intake.Carrier}
    {companion : Option Json} : c.test host input companion = c.build host input companion := by
  unfold lacking at h
  unfold test
  split
  · rfl
  · rename_i capability needs
    rw [needs, Option.filter_eq_none_iff] at h
    have there := h capability rfl
    rw [if_pos (by simpa using there)]

theorem test_of_lacking {capability : Capability} (h : c.lacking host = some capability)
    {input : c.intake.Carrier} {companion : Option Json} :
    c.test host input companion = (do
      Reported.warn (.missingCapability capability c.keyword)
      return none) := by
  obtain ⟨needs, missing⟩ := Option.filter_eq_some_iff.1 h
  unfold test
  rw [needs]
  exact if_neg (by simpa using missing)

theorem check_of_absent (h : m.values.get? c.keyword = none) : c.check host m = pure none := by
  rw [check, h]
  rfl

theorem check_of_input {values : List Json} {input : c.intake.Carrier}
    (hv : m.values.get? c.keyword = some values) (hi : c.intake.take values = some input) :
    c.check host m = (do
      let test ← c.test host input (c.companion.bind m.get?)
      return test.map fun t => ⟨c.keyword, t⟩) := by
  rw [check, hv, Option.bind_some, hi]

/-- Documents that agree under the keyword of a clause and under its companion give the same. -/
theorem check_congr (hk : m.values.get? c.keyword = m'.values.get? c.keyword)
    (hc : ∀ key ∈ c.companion, m.values.get? key.name = m'.values.get? key.name) :
    c.check host m = c.check host m' := by
  have companion : (c.companion.bind m.get? : Option Json) = c.companion.bind m'.get? := by
    rcases hcomp : c.companion with _ | key
    · rfl
    · exact AttributeMap.get?_congr (hc key hcomp)
  rw [check, check, hk, companion]
  rfl

theorem keyword_of_check {check : Check} (h : (c.check host m).result = some check) :
    check.keyword = c.keyword := by
  unfold Clause.check at h
  split at h
  · cases h
  · obtain ⟨t, -, rfl⟩ := Option.map_eq_some_iff.1 h
    rfl

end Clause

/-! ## Lists of clauses -/

namespace Condition

/-- The checks of a document under a list of clauses. -/
def checksBy (host : Host) (m : AttributeMap) (clauses : List Clause) : Reported (List Check) :=
  ⟨clauses.flatMap fun c => (c.check host m).reports,
    clauses.filterMap fun c => (c.check host m).result⟩

theorem result_checksBy (host : Host) (m : AttributeMap) (clauses : List Clause) :
    (checksBy host m clauses).result = clauses.filterMap fun c => (c.check host m).result := rfl

theorem reports_checksBy (host : Host) (m : AttributeMap) (clauses : List Clause) :
    (checksBy host m clauses).reports = clauses.flatMap fun c => (c.check host m).reports := rfl

/-- The checks of a document. -/
def checks (host : Host) (m : AttributeMap) : Reported (List Check) := checksBy host m catalogue

/-- The names that conditions take out of a document. The two that say when a rule applies at all
are no conditions and are taken with them. -/
def consumed (m : AttributeMap) : List String :=
  surroundings.flatMap (·.consumed m) ++ [Keyword.onJoin.name, Keyword.phase.name] ++
    occasion.flatMap (·.consumed m)

theorem mem_names_of_consumed {m : AttributeMap} {name : String} (h : name ∈ consumed m) :
    name ∈ catalogue.flatMap Clause.names ++ [Keyword.onJoin.name, Keyword.phase.name] := by
  have listed {clauses : List Clause} (h : name ∈ clauses.flatMap (·.consumed m)) :
      name ∈ clauses.flatMap Clause.names := by
    obtain ⟨c, hc, hn⟩ := List.mem_flatMap.1 h
    exact List.mem_flatMap.2 ⟨c, hc, Clause.mem_names_of_consumed hn⟩
  rw [catalogue, List.flatMap_append]
  rcases List.mem_append.1 h with h | h
  · rcases List.mem_append.1 h with h | h
    · exact List.mem_append_left _ (List.mem_append_left _ (listed h))
    · exact List.mem_append_right _ h
  · exact List.mem_append_left _ (List.mem_append_right _ (listed h))

/-- Where every clause gives the same, so does their list. -/
theorem checksBy_congr {host host' : Host} {m m' : AttributeMap} {clauses : List Clause}
    (h : ∀ c ∈ clauses, c.check host m = c.check host' m') :
    checksBy host m clauses = checksBy host' m' clauses :=
  Reported.ext (List.flatMap_congr fun c hc => congrArg Reported.reports (h c hc))
    (List.filterMap_congr fun c hc => congrArg Reported.result (h c hc))

end Condition

/-! ## Compiling -/

section Compiling

variable {host : Host} {m : AttributeMap} {c : Clause} {names : List String}

theorem Clause.check_dropAll (h : ∀ name ∈ c.names, name ∉ names) :
    c.check host (m.dropAll names) = c.check host m := by
  refine check_congr (m.values_dropAll_of_not_mem (h _ List.mem_cons_self)) fun key hk => ?_
  refine m.values_dropAll_of_not_mem (h key.name (List.mem_cons_of_mem _ ?_))
  rw [hk]
  exact List.mem_singleton_self _

theorem Clause.consumed_dropAll (h : c.keyword ∉ names) :
    c.consumed (m.dropAll names) = c.consumed m := by
  unfold consumed
  rw [m.values_dropAll_of_not_mem h]

theorem Clause.compile_eq (apart : c.names.Nodup) :
    c.compile host m =
      ⟨(c.check host m).reports, ((c.check host m).result, m.dropAll (c.consumed m))⟩ := by
  unfold compile check consumed
  rw [Intake.takeFrom_eq]
  rcases (m.values.get? c.keyword).bind c.intake.take with _ | input
  · rfl
  · have taken : c.takeCompanion (m.drop c.keyword) =
        (c.companion.bind m.get?, m.dropAll c.names) := by
      unfold takeCompanion names
      unfold names at apart
      rcases companion : c.companion with _ | key
      · rfl
      · have other : key.name ∉ [c.keyword] := by
          simpa [companion, eq_comm] using apart
        exact congrArg (·, _) (m.get?_dropAll other)
    dsimp only
    rw [taken]
    exact Reported.ext rfl rfl

/-- Every clause finds its names where they were filed, since those before it take others. -/
theorem Condition.compileBy_eq (host : Host) :
    ∀ {clauses : List Clause} (m : AttributeMap), (clauses.flatMap Clause.names).Nodup →
      compileBy host clauses m =
        ⟨(checksBy host m clauses).reports,
          ((checksBy host m clauses).result, m.dropAll (clauses.flatMap (·.consumed m)))⟩
  | [], _, _ => rfl
  | c :: rest, m, apart => by
    rw [List.flatMap_cons, List.nodup_append] at apart
    obtain ⟨own, others, disjoint⟩ := apart
    have behind : ∀ c' ∈ rest, ∀ name ∈ c'.names, name ∉ c.consumed m := by
      intro c' hc' name hn taken
      exact disjoint name (Clause.mem_names_of_consumed taken) name
        (List.mem_flatMap.2 ⟨c', hc', hn⟩) rfl
    have same : checksBy host (m.dropAll (c.consumed m)) rest = checksBy host m rest :=
      checksBy_congr fun c' hc' => Clause.check_dropAll (behind c' hc')
    have taken : rest.flatMap (·.consumed (m.dropAll (c.consumed m))) =
        rest.flatMap (·.consumed m) :=
      List.flatMap_congr fun c' hc' =>
        Clause.consumed_dropAll (behind c' hc' _ List.mem_cons_self)
    have ih := compileBy_eq host (m.dropAll (c.consumed m)) others
    rw [same, taken, ← AttributeMap.dropAll_append] at ih
    rw [compileBy, Clause.compile_eq own]
    refine Reported.ext ?_ ?_
    · rw [Reported.reports_bind, Reported.reports_bind]
      dsimp only
      rw [ih, Reported.reports_pure, List.append_nil]
      rfl
    · rw [Reported.result_bind, Reported.result_bind]
      dsimp only
      rw [ih, Reported.result_pure]
      refine congrArg (·, m.dropAll _) ?_
      unfold checksBy
      rw [List.filterMap_cons]
      rcases (c.check host m).result with _ | check <;> rfl

/-! ## The catalogue -/

namespace Condition

/-- No two clauses look under the same name. -/
theorem nodup_names : (catalogue.flatMap Clause.names).Nodup := by
  decide +kernel

theorem checksBy_append (host : Host) (m : AttributeMap) (a b : List Clause) :
    checksBy host m (a ++ b) =
      ⟨(checksBy host m a).reports ++ (checksBy host m b).reports,
        (checksBy host m a).result ++ (checksBy host m b).result⟩ :=
  Reported.ext List.flatMap_append (List.filterMap_append)

/-- The clauses on the occasion find their names where they were filed. -/
theorem occasion_apart {name : String} (h : name ∈ occasion.flatMap Clause.names) :
    name ∉ surroundings.flatMap (·.consumed m) ++ [Keyword.onJoin.name, Keyword.phase.name] := by
  have distinct := nodup_names
  rw [catalogue, List.flatMap_append, List.nodup_append] at distinct
  rw [List.mem_append, not_or]
  refine ⟨fun taken => ?_, ?_⟩
  · obtain ⟨c, hc, hn⟩ := List.mem_flatMap.1 taken
    exact distinct.2.2 name (List.mem_flatMap.2 ⟨c, hc, Clause.mem_names_of_consumed hn⟩) name h rfl
  · exact (by decide : ∀ name ∈ occasion.flatMap Clause.names,
      name ∉ [Keyword.onJoin.name, Keyword.phase.name]) name h

/-- Compiling gives the checks of the document and takes the names of its conditions. -/
theorem compile_eq (host : Host) (m : AttributeMap) :
    compile host m =
      ⟨(checks host m).reports, ((checks host m).result, m.dropAll (consumed m))⟩ := by
  have distinct := nodup_names
  rw [catalogue, List.flatMap_append, List.nodup_append] at distinct
  let taken := surroundings.flatMap (·.consumed m) ++ [Keyword.onJoin.name, Keyword.phase.name]
  have own := compileBy_eq host (m.dropAll taken) distinct.2.1
  have same : checksBy host (m.dropAll taken) occasion = checksBy host m occasion :=
    checksBy_congr fun c hc => Clause.check_dropAll fun name hn =>
      occasion_apart (List.mem_flatMap.2 ⟨c, hc, hn⟩)
  have consumes : occasion.flatMap (·.consumed (m.dropAll taken)) =
      occasion.flatMap (·.consumed m) :=
    List.flatMap_congr fun c hc => Clause.consumed_dropAll <|
      occasion_apart (List.mem_flatMap.2 ⟨c, hc, List.mem_cons_self⟩)
  rw [same, consumes, ← AttributeMap.dropAll_append, AttributeMap.dropAll_append] at own
  change compileBy host occasion (((m.dropAll (surroundings.flatMap (·.consumed m))).drop
    Keyword.onJoin.name).drop Keyword.phase.name) = _ at own
  rw [compile, compileBy_eq host m distinct.1, checks, catalogue, checksBy_append]
  refine Reported.ext ?_ ?_
  · rw [Reported.reports_bind]
    dsimp only [AttributeMap.take, AttributeMap.takeAll]
    rw [Reported.reports_bind, own, Reported.reports_pure, List.append_nil]
  · rw [Reported.result_bind]
    dsimp only [AttributeMap.take, AttributeMap.takeAll]
    rw [Reported.result_bind, own]
    rfl

end Condition

end Compiling

/-! ## Divided values -/

/-- The values of `m` are divided between `a` and `b`. -/
structure AttributeMap.Divided (m a b : AttributeMap) : Prop where
  together : ∀ name, m.values.get? name = (a.values.get? name).or (b.values.get? name)
  apart : ∀ name, a.values.get? name = none ∨ b.values.get? name = none

theorem AttributeMap.Divided.symm {m a b : AttributeMap} (h : m.Divided a b) : m.Divided b a where
  together name := by
    rw [h.together]
    rcases h.apart name with hn | hn <;> rw [hn] <;> simp
  apart name := (h.apart name).symm

/-- The companion of a clause is not filed apart from its keyword. -/
def Clause.Joined (c : Clause) (a b : AttributeMap) : Prop :=
  ∀ key ∈ c.companion, a.values.get? c.keyword = none ∨ b.values.get? key.name = none

theorem Clause.check_of_divided_left {c : Clause} {host : Host} {m a b : AttributeMap}
    (h : m.Divided a b) (joined : c.Joined a b) {values : List Json}
    (hv : a.values.get? c.keyword = some values) :
    c.check host m = c.check host a ∧ c.check host b = pure none := by
  have absent : b.values.get? c.keyword = none := by
    rcases h.apart c.keyword with ha | hb
    · rw [hv] at ha
      cases ha
    · exact hb
  refine ⟨check_congr (by rw [h.together, absent, Option.or_none]) fun key hk => ?_,
    check_of_absent absent⟩
  rcases joined key hk with ha | hb
  · rw [hv] at ha
    cases ha
  · rw [h.together, hb, Option.or_none]

/-- A clause gives on divided values what it gives on one of the parts, and nothing on the other. -/
theorem Clause.check_of_divided {c : Clause} (host : Host) {m a b : AttributeMap}
    (h : m.Divided a b) (hab : c.Joined a b) (hba : c.Joined b a) :
    (c.check host m = c.check host a ∧ c.check host b = pure none) ∨
    (c.check host m = c.check host b ∧ c.check host a = pure none) := by
  rcases ha : a.values.get? c.keyword with _ | values
  · rcases hb : b.values.get? c.keyword with _ | values
    · left
      rw [check_of_absent ha, check_of_absent hb,
        check_of_absent (by rw [h.together, ha, hb, Option.or_none])]
      exact ⟨rfl, rfl⟩
    · exact .inr (check_of_divided_left h.symm hba hb)
  · exact .inl (check_of_divided_left h hab ha)

theorem filterMap_perm_append {α β : Type} {f f₁ f₂ : α → Option β} :
    ∀ {l : List α}, (∀ x ∈ l, (f x = f₁ x ∧ f₂ x = none) ∨ (f x = f₂ x ∧ f₁ x = none)) →
      (l.filterMap f).Perm (l.filterMap f₁ ++ l.filterMap f₂)
  | [], _ => .refl _
  | x :: l, h => by
    have ih := filterMap_perm_append fun y hy => h y (List.mem_cons_of_mem _ hy)
    rw [List.filterMap_cons, List.filterMap_cons, List.filterMap_cons]
    rcases h x List.mem_cons_self with ⟨hf, hn⟩ | ⟨hf, hn⟩
    · rw [hf, hn]
      rcases f₁ x with _ | y
      · exact ih
      · exact ih.cons y
    -- what the second part gives moves behind all that the first part gives later
    · rw [hf, hn]
      rcases f₂ x with _ | y
      · exact ih
      · exact (ih.cons y).trans List.perm_middle.symm

/-- Verdicts that are divided between two lists, each in its order, come to what the lists come to
together. -/
theorem Check.meets_of_divided {α : Type} {f f₁ f₂ : α → Option (Except Fault Bool)} :
    ∀ {l : List α}, (∀ x ∈ l, (f x = f₁ x ∧ f₂ x = none) ∨ (f x = f₂ x ∧ f₁ x = none)) →
      Meets (conclude (l.filterMap f)) (conclude (l.filterMap f₁)) (conclude (l.filterMap f₂))
  | [], _ => ⟨by simp, fun p q hp hq => by
      cases hp
      cases hq
      rfl⟩
  | x :: l, h => by
    have ih := meets_of_divided fun y hy => h y (List.mem_cons_of_mem _ hy)
    rw [List.filterMap_cons, List.filterMap_cons, List.filterMap_cons]
    rcases h x List.mem_cons_self with ⟨hf, hn⟩ | ⟨hf, hn⟩
    · rw [hf, hn]
      rcases f₁ x with _ | v
      · exact ih
      · exact ih.cons v
    · rw [hf, hn]
      rcases f₂ x with _ | v
      · exact ih
      · exact (ih.symm.cons v).symm

/-- The checks of divided values are those of the parts. -/
theorem Condition.checksBy_of_divided (host : Host) {m a b : AttributeMap} (h : m.Divided a b)
    {clauses : List Clause} (joined : ∀ c ∈ clauses, c.Joined a b ∧ c.Joined b a) :
    (checksBy host m clauses).result.Perm
      ((checksBy host a clauses).result ++ (checksBy host b clauses).result) := by
  refine filterMap_perm_append fun c hc => ?_
  obtain ⟨hab, hba⟩ := joined c hc
  rcases c.check_of_divided host h hab hba with ⟨hm, hn⟩ | ⟨hm, hn⟩
  · exact .inl ⟨congrArg Reported.result hm, congrArg Reported.result hn⟩
  · exact .inr ⟨congrArg Reported.result hm, congrArg Reported.result hn⟩

end EventRules
