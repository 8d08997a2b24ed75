/-
Objects that describe a count. What the fields of such an object may be and what an object says is
stated without the reader of its fields; the reader accepts an object exactly if all its fields are
such, its amount is there and the fields do not contradict each other.
-/
import EventRules.Condition.Count
import EventRules.Proofs.Dict
import EventRules.Proofs.Problem

namespace EventRules.CountInfo

/-! ## Fields -/

/-- A field with a value of its kind, and what it sets. -/
inductive Field : String → Json → (Fields → Fields) → Prop
  | amount (n : Number) : Field "amount" (.number n) fun f => { f with amount := some n.toDouble }
  | noMob : Field "mob" .null fun f => { f with mobs := [] }
  | mob (name : String) : Field "mob" (.string name) fun f => { f with mobs := [name] }
  | mobs (names : List String) :
    Field "mob" (.array (names.map .string)) fun f => { f with mobs := names }
  | noMod : Field "mod" .null fun f => { f with space := none }
  | mod (space : String) : Field "mod" (.string space) fun f => { f with space := some space }
  | perPlayer (b : Bool) : Field "perplayer" (.bool b) fun f => { f with perPlayer := b }
  | perChunk (b : Bool) : Field "perchunk" (.bool b) fun f => { f with perChunk := b }
  | passive (b : Bool) : Field "passive" (.bool b) fun f => { f with passive := b }
  | hostile (b : Bool) : Field "hostile" (.bool b) fun f => { f with hostile := b }

theorem mapM_string?_eq_some_iff {items : List Json} {names : List String} :
    items.mapM Json.string? = some names ↔ items = names.map Json.string := by
  induction items generalizing names with
  | nil => cases names <;> simp
  | cons v rest ih =>
    simp only [List.mapM_cons, Option.bind_eq_bind, Option.bind_eq_some_iff, Option.pure_def,
      Option.some.injEq, ih]
    constructor
    · rintro ⟨s, hs, names, rfl, rfl⟩
      cases v with
      | string s' =>
        cases hs
        rfl
      | _ => cases hs
    · intro h
      cases names with
      | nil => cases h
      | cons name names =>
        cases h
        exact ⟨name, rfl, names, rfl, rfl⟩

theorem mobField_ok {v : Json} {names : List String} (h : mobField v = .ok names) :
    Field "mob" v fun f => { f with mobs := names } := by
  unfold mobField at h
  cases v with
  | null =>
    cases h
    exact .noMob
  | string s =>
    cases h
    exact .mob s
  | array items =>
    simp only at h
    split at h
    · rename_i read
      cases h
      obtain rfl := mapM_string?_eq_some_iff.1 read
      exact .mobs names
    · cases h
  | _ => cases h

theorem flagField_ok {v : Json} {b : Bool} (h : flagField v = .ok b) : v = .bool b := by
  cases v with
  | bool b =>
    cases h
    rfl
  | _ => cases h

/-- What is read is a field, and it is set. -/
theorem read_eq_ok_iff {f f' : Fields} {name : String} {v : Json} :
    f.read name v = .ok f' ↔ ∃ set, Field name v set ∧ f' = set f := by
  constructor
  · intro h
    unfold Fields.read at h
    split at h
    · obtain ⟨x, hx, rfl⟩ := exists_of_map h
      cases v with
      | number n =>
        cases hx
        exact ⟨_, .amount n, rfl⟩
      | _ => cases hx
    · obtain ⟨names, read, rfl⟩ := exists_of_map h
      exact ⟨_, mobField_ok read, rfl⟩
    · obtain ⟨space, read, rfl⟩ := exists_of_map h
      cases v with
      | null =>
        cases read
        exact ⟨_, .noMod, rfl⟩
      | string s =>
        cases read
        exact ⟨_, .mod s, rfl⟩
      | _ => cases read
    · obtain ⟨b, read, rfl⟩ := exists_of_map h
      obtain rfl := flagField_ok read
      exact ⟨_, .perPlayer b, rfl⟩
    · obtain ⟨b, read, rfl⟩ := exists_of_map h
      obtain rfl := flagField_ok read
      exact ⟨_, .perChunk b, rfl⟩
    · obtain ⟨b, read, rfl⟩ := exists_of_map h
      obtain rfl := flagField_ok read
      exact ⟨_, .passive b, rfl⟩
    · obtain ⟨b, read, rfl⟩ := exists_of_map h
      obtain rfl := flagField_ok read
      exact ⟨_, .hostile b, rfl⟩
    · cases h
  · rintro ⟨set, field, rfl⟩
    cases field with
    | mobs names => simp [Fields.read, mobField, mapM_string?_eq_some_iff.2 rfl, Except.map]
    | _ => rfl

/-! ## Objects -/

theorem ofMembers_cons {f f' : Fields} {head : String × Json} {rest : List (String × Json)}
    (h : f.ofMembers (head :: rest) = .ok f') :
    ∃ set, Field head.1 head.2 set ∧ (set f).ofMembers rest = .ok f' := by
  rw [Fields.ofMembers] at h
  rcases read : f.read head.1 head.2 with p | f₁
  · rw [read] at h
    cases h
  · rw [read] at h
    obtain ⟨set, field, rfl⟩ := read_eq_ok_iff.1 read
    exact ⟨set, field, h⟩

/-- An object is read if all its members are fields. -/
theorem ofMembers_ok_iff {f : Fields} {members : List (String × Json)} :
    (∃ f', f.ofMembers members = .ok f') ↔ ∀ e ∈ members, ∃ set, Field e.1 e.2 set := by
  induction members generalizing f with
  | nil => exact iff_of_true ⟨f, rfl⟩ (List.forall_mem_nil _)
  | cons head rest ih =>
    rw [List.forall_mem_cons]
    constructor
    · rintro ⟨f', h⟩
      obtain ⟨set, field, h⟩ := ofMembers_cons h
      exact ⟨⟨set, field⟩, ih.1 ⟨f', h⟩⟩
    · rintro ⟨⟨set, field⟩, others⟩
      obtain ⟨f', h⟩ := (ih (f := set f)).2 others
      refine ⟨f', ?_⟩
      rw [Fields.ofMembers, read_eq_ok_iff.2 ⟨set, field, rfl⟩]
      exact h

/-- A part of the fields that is set by those called `name` and by no others comes from the member of
that name. -/
theorem ofMembers_part {α : Type} (part : Fields → α) (name : String) (value : Json → α)
    (step : ∀ key v set f, Field key v set →
      part (set f) = if key = name then value v else part f)
    {members : List (String × Json)} (ordered : Entries.Ordered members) {f f' : Fields}
    (h : f.ofMembers members = .ok f') :
    part f' = ((Entries.find? name members).map value).getD (part f) := by
  induction members generalizing f with
  | nil =>
    cases h
    rfl
  | cons head rest ih =>
    obtain ⟨-, tail⟩ := List.pairwise_cons.mp ordered
    obtain ⟨set, field, h⟩ := ofMembers_cons h
    rw [ih tail h, Entries.find?_cons, step head.1 head.2 set f field]
    by_cases hn : head.1 = name
    · subst hn
      rw [ordered.find?_head, if_pos rfl, if_pos rfl]
      rfl
    · rw [if_neg hn, if_neg hn]

/-! ## What an object says -/

/-- An object that describes a count. -/
abbrev Description := Dict Json

namespace Description

variable (d : Description)

/-- What a member says, if it is there. -/
def member {α : Type} (name : String) (value : Json → α) (absent : α) : α :=
  ((d.get? name).map value).getD absent

def amountIn : Json → Option Double
  | .number n => some n.toDouble
  | _ => none

/-- The names in the value of the member `mob`: a name, or a list of names. -/
def namesIn : Json → List String
  | .string name => [name]
  | .array items => items.filterMap Json.string?
  | _ => []

/-- The mobs that are named. -/
def mobs : List String := d.member "mob" namesIn []

/-- The mod that is named. -/
def space : Option String := d.member "mod" Json.string? none

/-- Whether a flag is set. -/
def flag (name : String) : Bool := d.member name (fun v => v.bool?.getD false) false

theorem namesIn_array (names : List String) : namesIn (.array (names.map .string)) = names := by
  show (names.map Json.string).filterMap Json.string? = names
  rw [List.filterMap_map]
  exact List.filterMap_some

/-- Fields that hold what an object says. -/
structure SaidBy (f : Fields) : Prop where
  amount : f.amount = d.member "amount" amountIn none
  mobs : f.mobs = d.mobs
  space : f.space = d.space
  perPlayer : f.perPlayer = d.flag "perplayer"
  perChunk : f.perChunk = d.flag "perchunk"
  passive : f.passive = d.flag "passive"
  hostile : f.hostile = d.flag "hostile"

variable {d}

/-- What the reader takes from the members of an object is what the object says. -/
theorem saidBy_of_members {f : Fields} (h : Fields.ofMembers {} d.entries = .ok f) : d.SaidBy f where
  amount := ofMembers_part Fields.amount "amount" amountIn
    (fun key v set f field => by cases field <;> simp [amountIn]) d.ordered h
  mobs := ofMembers_part Fields.mobs "mob" namesIn
    (fun key v set f field => by
      cases field with
      | mobs names => exact (namesIn_array names).symm
      | _ => simp [namesIn]) d.ordered h
  space := ofMembers_part Fields.space "mod" Json.string?
    (fun key v set f field => by cases field <;> simp [Json.string?]) d.ordered h
  perPlayer := ofMembers_part Fields.perPlayer "perplayer" _
    (fun key v set f field => by cases field <;> simp [Json.bool?]) d.ordered h
  perChunk := ofMembers_part Fields.perChunk "perchunk" _
    (fun key v set f field => by cases field <;> simp [Json.bool?]) d.ordered h
  passive := ofMembers_part Fields.passive "passive" _
    (fun key v set f field => by cases field <;> simp [Json.bool?]) d.ordered h
  hostile := ofMembers_part Fields.hostile "hostile" _
    (fun key v set f field => by cases field <;> simp [Json.bool?]) d.ordered h

theorem number_of_member {x : Double} (h : d.member "amount" amountIn none = some x) :
    ∃ n, d.get? "amount" = some (.number n) := by
  unfold member at h
  rcases there : d.get? "amount" with _ | v
  · rw [there] at h
    cases h
  · rw [there] at h
    cases v with
    | number n => exact ⟨n, rfl⟩
    | _ => cases h

/-! ## Acceptance -/

/-- An object that describes a count without contradiction, of mobs that are known. -/
structure Consistent (d : Description) (registry : Registry) : Prop where
  fields : ∀ name v, d.get? name = some v → ∃ set, Field name v set
  amount : ∃ n, d.get? "amount" = some (.number n)
  one_scale : ¬ (d.flag "perplayer" = true ∧ d.flag "perchunk" = true)
  one_category : ¬ (d.flag "passive" = true ∧ d.flag "hostile" = true)
  mobs_alone : d.mobs ≠ [] →
    d.space = none ∧ d.flag "passive" = false ∧ d.flag "hostile" = false
  mobs_known : ∀ name ∈ d.mobs, registry.hasEntity (ResourceId.parse name) = true

theorem ofObject_eq_ok_iff {members : List (String × Json)} {amount : Double} {f : Fields} :
    Fields.ofObject members = .ok (amount, f) ↔
      Fields.ofMembers {} members = .ok f ∧ f.amount = some amount := by
  unfold Fields.ofObject
  rcases Fields.ofMembers {} members with reason | f'
  · simp [bind, Except.bind]
  · simp only [bind, Except.bind]
    rcases there : f'.amount with _ | amount'
    · simp only [reduceCtorEq, Except.ok.injEq, false_iff, not_and, throw, throwThe,
        MonadExceptOf.throw]
      rintro rfl
      simp [there]
    · simp only [pure, Except.pure, Except.ok.injEq, Prod.mk.injEq]
      constructor
      · rintro ⟨rfl, rfl⟩
        exact ⟨rfl, there⟩
      · rintro ⟨rfl, h⟩
        exact ⟨Option.some.inj (there.symm.trans h), rfl⟩

/-- An object is read if its members are fields and the amount is among them. -/
theorem exists_ofObject_iff :
    (∃ amount f, Fields.ofObject d.entries = .ok (amount, f)) ↔
      (∀ name v, d.get? name = some v → ∃ set, Field name v set) ∧
        ∃ n, d.get? "amount" = some (.number n) := by
  have members : (∀ name v, d.get? name = some v → ∃ set, Field name v set) ↔
      ∀ e ∈ d.entries, ∃ set, Field e.1 e.2 set := by
    simp only [Dict.get?, Entries.find?_eq_some_iff d.ordered, Prod.forall]
  simp only [ofObject_eq_ok_iff, members, ← ofMembers_ok_iff (f := {})]
  constructor
  · rintro ⟨amount, f, read, there⟩
    refine ⟨⟨f, read⟩, ?_⟩
    rw [(saidBy_of_members read).amount] at there
    exact number_of_member there
  · rintro ⟨⟨f, read⟩, n, there⟩
    refine ⟨n.toDouble, f, read, ?_⟩
    rw [(saidBy_of_members read).amount, member, there]
    rfl

/-- The fields are free of contradiction if no scale, category or mob excludes another. -/
theorem conflict?_eq_none_iff {f : Fields} :
    f.conflict? = none ↔ ¬ (f.perPlayer = true ∧ f.perChunk = true) ∧
      ¬ (f.passive = true ∧ f.hostile = true) ∧
      (f.mobs ≠ [] → f.space = none ∧ f.passive = false ∧ f.hostile = false) := by
  unfold Fields.conflict?
  rcases f.mobs with _ | ⟨name, names⟩
  · simp only [List.isEmpty_nil, Bool.not_true, Bool.and_false]
    grind
  -- with a mob, a mod is refused before the category is looked at
  · rcases f.space with _ | space
    · simp only [Option.isSome_none, List.isEmpty_cons, Bool.not_false, Bool.and_true]
      grind
    · simp only [Option.isSome_some, List.isEmpty_cons, Bool.not_false, Bool.and_true]
      grind

/-- Fields that hold what an object says contradict each other if the object does. -/
theorem SaidBy.conflict?_eq_none_iff {f : Fields} (said : d.SaidBy f) :
    f.conflict? = none ↔ ¬ (d.flag "perplayer" = true ∧ d.flag "perchunk" = true) ∧
      ¬ (d.flag "passive" = true ∧ d.flag "hostile" = true) ∧
      (d.mobs ≠ [] → d.space = none ∧ d.flag "passive" = false ∧ d.flag "hostile" = false) := by
  rw [Description.conflict?_eq_none_iff, said.perPlayer, said.perChunk, said.passive, said.hostile,
    said.mobs, said.space]

/-- Mobs are taken if they are all known, and they are taken by their identifiers. -/
theorem mapM_knownEntity_eq_ok_iff {registry : Registry} {names : List String}
    {ids : List ResourceId} :
    names.mapM (knownEntity registry) = .ok ids ↔
      (∀ name ∈ names, registry.hasEntity (.parse name) = true) ∧ ids = names.map .parse := by
  induction names generalizing ids with
  | nil =>
    simp only [List.mapM_nil, pure, Except.pure, Except.ok.injEq, List.map_nil, eq_comm]
    simp
  | cons name names ih =>
    rw [List.mapM_cons, List.forall_mem_cons, List.map_cons]
    by_cases known : registry.hasEntity (.parse name) = true
    · have here : knownEntity registry name = .ok (.parse name) := if_pos known
      rw [here]
      rcases read : names.mapM (knownEntity registry) with p | others
      · simp only [bind, Except.bind, reduceCtorEq, false_iff, not_and]
        intro all
        rw [ih.2 ⟨all.2, rfl⟩] at read
        cases read
      · obtain ⟨all, rfl⟩ := ih.1 read
        simp only [bind, Except.bind, pure, Except.pure, Except.ok.injEq]
        rw [and_iff_right ⟨known, all⟩, eq_comm]
    · have here : knownEntity registry name = .error (.unknownEntity name) := if_neg known
      rw [here]
      simp only [bind, Except.bind, reduceCtorEq, known, false_and]

/-- What is counted by fields without contradiction whose mobs are known. -/
theorem ofFields_eq_ok_iff {registry : Registry} {amount : Double} {f : Fields} {c : CountInfo} :
    ofFields registry amount f = .ok c ↔
      f.conflict? = none ∧ (∀ name ∈ f.mobs, registry.hasEntity (.parse name) = true) ∧
        c = { amount := amount.toInt32, species := f.mobs.map .parse, space := f.space
              category := if f.passive then some .passive
                else if f.hostile then some .hostile else none
              scale := if f.perPlayer then .perPlayer
                else if f.perChunk then .perChunk else .fixed } := by
  unfold ofFields
  rcases f.conflict? with _ | conflict
  · rcases read : f.mobs.mapM (knownEntity registry) with p | ids
    · simp only [bind, Except.bind, reduceCtorEq, false_iff, not_and, true_and]
      intro known
      rw [mapM_knownEntity_eq_ok_iff.2 ⟨known, rfl⟩] at read
      cases read
    · obtain ⟨known, rfl⟩ := mapM_knownEntity_eq_ok_iff.1 read
      simp only [bind, Except.bind, pure, Except.pure, Except.ok.injEq, true_and]
      rw [and_iff_right known, eq_comm]
  · simp [bind, Except.bind, throw, throwThe, MonadExceptOf.throw]

theorem ofJson_object_eq_ok_iff {registry : Registry} {members : List (String × Json)}
    {c : CountInfo} :
    ofJson registry (.object members) = .ok c ↔
      ∃ amount f, Fields.ofObject members = .ok (amount, f) ∧
        ofFields registry amount f = .ok c := by
  simp only [ofJson]
  rcases Fields.ofObject members with reason | ⟨amount, f⟩
  · simp
  · simp only [Except.ok.injEq, Prod.mk.injEq]
    constructor
    · intro h
      exact ⟨amount, f, ⟨rfl, rfl⟩, h⟩
    · rintro ⟨_, _, ⟨rfl, rfl⟩, h⟩
      exact h

variable {registry : Registry}

/-- An object is accepted exactly if it is consistent. -/
theorem exists_ofJson_iff :
    (∃ c, ofJson registry (.object d.entries) = .ok c) ↔ d.Consistent registry := by
  simp only [ofJson_object_eq_ok_iff, ofFields_eq_ok_iff]
  constructor
  · rintro ⟨c, amount, f, read, calm, known, -⟩
    have said := saidBy_of_members (ofObject_eq_ok_iff.1 read).1
    obtain ⟨fields, number⟩ := exists_ofObject_iff.1 ⟨amount, f, read⟩
    obtain ⟨scale, category, alone⟩ := said.conflict?_eq_none_iff.1 calm
    rw [said.mobs] at known
    exact ⟨fields, number, scale, category, alone, known⟩
  · intro h
    obtain ⟨amount, f, read⟩ := exists_ofObject_iff.2 ⟨h.fields, h.amount⟩
    have said := saidBy_of_members (ofObject_eq_ok_iff.1 read).1
    have calm := said.conflict?_eq_none_iff.2 ⟨h.one_scale, h.one_category, h.mobs_alone⟩
    refine ⟨_, amount, f, read, calm, ?_, rfl⟩
    rw [said.mobs]
    exact h.mobs_known

/-- What is counted by an object that is accepted, is what the object says. -/
theorem counted {c : CountInfo} (h : ofJson registry (.object d.entries) = .ok c) :
    c.species = d.mobs.map .parse ∧ c.space = d.space ∧
      c.category = if d.flag "passive" then some .passive
        else if d.flag "hostile" then some .hostile else none := by
  obtain ⟨amount, f, read, h⟩ := ofJson_object_eq_ok_iff.1 h
  obtain ⟨-, -, rfl⟩ := ofFields_eq_ok_iff.1 h
  have said := saidBy_of_members (ofObject_eq_ok_iff.1 read).1
  exact ⟨by rw [said.mobs], said.space, by rw [said.passive, said.hostile]⟩

end Description

end EventRules.CountInfo
