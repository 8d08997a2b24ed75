/-
Range expressions as a grammar: which texts stand for which expression, with no order among the
forms. Reading tries the forms in an order and keeps to the first that reads some beginning of the
text. This never refuses and never misreads: what is read are exactly the texts of the grammar, and
no text has two meanings.
-/
import EventRules.Specifier.Range
import EventRules.Proofs.Problem
import EventRules.Proofs.Specifier.Number
import EventRules.Proofs.Text.Trim

namespace EventRules

/-! ## Scanning in alternatives -/

namespace Specifier

variable {α : Type} {scan : Scan α} {scans after : List (Scan α)} {cs : List Char}
  {r : α × List Char}

/-- The scanner reads no beginning of the text. -/
def Refuses (scan : Scan α) (cs : List Char) : Prop := ∀ r, scan cs ≠ .ok r

theorem firstOf_cons_refused (h : Refuses scan cs) : firstOf (scan :: scans) cs = firstOf scans cs := by
  rw [firstOf]
  rcases hs : scan cs with place | r
  · rfl
  · exact absurd hs (h r)

theorem firstOf_of_refused (before : List (Scan α)) (refused : ∀ s ∈ before, Refuses s cs)
    (h : scan cs = .ok r) :
    firstOf (before ++ scan :: after) cs = .ok r := by
  induction before with
  | nil => rw [List.nil_append, firstOf, h]
  | cons first others ih =>
    obtain ⟨head, tail⟩ := List.forall_mem_cons.1 refused
    rw [List.cons_append, firstOf_cons_refused head, ih tail]

theorem exists_of_firstOf (h : firstOf scans cs = .ok r) : ∃ s ∈ scans, s cs = .ok r := by
  induction scans with
  | nil => cases h
  | cons first others ih =>
    rw [firstOf] at h
    split at h
    · rename_i r' read
      cases h
      exact ⟨first, List.mem_cons_self, read⟩
    · obtain ⟨s, hs, read⟩ := ih h
      exact ⟨s, List.mem_cons_of_mem _ hs, read⟩

theorem mark_sound {c : Char} {u : Unit} {rest : List Char} (h : mark c cs = .ok (u, rest)) :
    cs = c :: rest := by
  unfold mark at h
  split at h
  · split at h
    · rename_i same
      cases h
      rw [same]
    · cases h
  · cases h

theorem word_sound {symbol rest : List Char} {u : Unit} (h : word symbol cs = .ok (u, rest)) :
    cs = symbol ++ rest := by
  unfold word at h
  split at h
  · rename_i begins
    obtain ⟨behind, rfl⟩ := List.isPrefixOf_iff_prefix.1 begins
    rw [List.drop_left] at h
    cases h
    rfl
  · cases h

/-- A whole text is read if its scanner leaves nothing of what is between the blanks at its ends. -/
theorem whole_ok_iff {form : SpecifierForm} {text : String} {v : α} :
    whole form scan text = .ok v ↔ scan (Text.trim text.toList) = .ok (v, []) := by
  unfold whole
  dsimp only
  rcases scan (Text.trim text.toList) with place | ⟨v', _ | ⟨c, rest⟩⟩ <;> simp

end Specifier

namespace RangeExpr

open Specifier

/-! ## The grammar -/

/-- The texts of range expressions with what they stand for; the numbers are those of 64 bits. -/
inductive Written : List Char → RangeExpr → Prop
  | atLeast {cs : List Char} {n : Int64} (h : Padded cs n.toInt) :
    Written ('>' :: '=' :: cs) (.atLeast n)
  | above {cs : List Char} {n : Int64} (h : Padded cs n.toInt) : Written ('>' :: cs) (.above n)
  | atMost {cs : List Char} {n : Int64} (h : Padded cs n.toInt) :
    Written ('<' :: '=' :: cs) (.atMost n)
  | below {cs : List Char} {n : Int64} (h : Padded cs n.toInt) : Written ('<' :: cs) (.below n)
  | equal {cs : List Char} {n : Int64} (h : Padded cs n.toInt) : Written ('=' :: cs) (.equal n)
  | notEqual {cs : List Char} {n : Int64} (h : Padded cs n.toInt) :
    Written ('!' :: '=' :: cs) (.notEqual n)
  | unequal {cs : List Char} {n : Int64} (h : Padded cs n.toInt) :
    Written ('<' :: '>' :: cs) (.notEqual n)
  | between {ls hs : List Char} {low high : Int64} (hl : Padded ls low.toInt)
    (hh : Padded hs high.toInt) : Written (ls ++ '-' :: hs) (.between low high)
  | bare {cs : List Char} {n : Int64} (h : Padded cs n.toInt) : Written cs (.equal n)

/-! ## The forms one by one -/

variable {symbol cs rest : List Char} {make : Int64 → RangeExpr} {n : Int64} {e : RangeExpr}

theorem number_complete (h : Padded cs n.toInt) (stop : Stops rest) :
    number (cs ++ rest) = .ok (n, rest) :=
  integer_complete h (Decimal.int64?_eq_some_iff.2 rfl) stop

theorem number_sound (h : number cs = .ok (n, rest)) :
    ∃ written, cs = written ++ rest ∧ Padded written n.toInt := by
  obtain ⟨written, m, split, padded, fit⟩ := integer_sound h
  obtain rfl := Decimal.int64?_eq_some_iff.1 fit
  exact ⟨written, split, padded⟩

theorem operator_complete (h : Padded cs n.toInt) :
    operator symbol make (symbol ++ cs) = .ok (make n, []) := by
  have read := number_complete h stops_nil
  rw [List.append_nil] at read
  have passed : word symbol (symbol ++ cs) = .ok ((), cs) := by
    rw [word, if_pos (List.isPrefixOf_iff_prefix.2 (List.prefix_append _ _)), List.drop_left]
  simp only [operator, bind, Except.bind, passed, read, pure, Except.pure]

theorem operator_sound (h : operator symbol make cs = .ok (e, rest)) :
    ∃ written n, cs = symbol ++ (written ++ rest) ∧ Padded written n.toInt ∧ e = make n := by
  obtain ⟨⟨_, behind⟩, passed, h⟩ := exists_of_bind h
  obtain ⟨⟨n, after⟩, read, made⟩ := exists_of_bind h
  cases made
  obtain rfl := word_sound passed
  obtain ⟨written, rfl, padded⟩ := number_sound read
  exact ⟨written, n, rfl, padded, rfl⟩

theorem operator_refuses (h : ¬ symbol <+: cs) : Refuses (operator symbol make) cs := by
  rintro ⟨e, rest⟩ read
  obtain ⟨written, n, rfl, -, -⟩ := operator_sound read
  exact h (List.prefix_append _ _)

theorem dashed_complete {ls hs : List Char} {low high : Int64} (hl : Padded ls low.toInt)
    (hh : Padded hs high.toInt) : dashed (ls ++ '-' :: hs) = .ok (.between low high, []) := by
  have first : number (ls ++ '-' :: hs) = .ok (low, '-' :: hs) :=
    number_complete hl (stops_cons rfl rfl)
  have second := number_complete hh stops_nil
  rw [List.append_nil] at second
  simp only [dashed, bind, Except.bind, first, mark, if_pos, second, pure, Except.pure]

theorem dashed_sound (h : dashed cs = .ok (e, rest)) :
    ∃ ls hs low high, cs = ls ++ '-' :: (hs ++ rest) ∧ Padded ls low.toInt ∧ Padded hs high.toInt ∧
      e = .between low high := by
  obtain ⟨⟨low, behind⟩, first, h⟩ := exists_of_bind h
  obtain ⟨⟨_, after⟩, marked, h⟩ := exists_of_bind h
  obtain ⟨⟨high, last⟩, second, made⟩ := exists_of_bind h
  cases made
  obtain ⟨ls, rfl, hl⟩ := number_sound first
  obtain rfl := mark_sound marked
  obtain ⟨hs, rfl, hh⟩ := number_sound second
  exact ⟨ls, hs, low, high, rfl, hl, hh, rfl⟩

/-! ## The forms in their order -/

/-- The operators in the order they are tried. -/
def operators : List (List Char × (Int64 → RangeExpr)) :=
  [(['>', '='], .atLeast), (['>'], .above), (['<', '='], .atMost), (['!', '='], .notEqual),
    (['<', '>'], .notEqual), (['<'], .below), (['='], .equal)]

theorem alternatives_eq :
    alternatives = operators.map (fun o => operator o.1 o.2) ++ [dashed, operator [] .equal] := rfl

theorem operators_refuse {tried : List (List Char × (Int64 → RangeExpr))}
    (h : ∀ o ∈ tried, ¬ o.1 <+: cs) :
    ∀ s ∈ tried.map fun o => operator o.1 o.2, Refuses s cs := by
  intro s hs
  obtain ⟨o, ho, rfl⟩ := List.mem_map.1 hs
  exact operator_refuses (h o ho)

/-- An operator is read if the text begins with none of those that are tried before. -/
theorem firstOf_operator (k : Nat) (place : operators[k]? = some (symbol, make))
    (earlier : ∀ o ∈ operators.take k, ¬ o.1 <+: symbol ++ cs) (h : Padded cs n.toInt) :
    firstOf alternatives (symbol ++ cs) = .ok (make n, []) := by
  obtain ⟨lt, there⟩ := List.getElem?_eq_some_iff.1 place
  have split : operators = operators.take k ++ (symbol, make) :: operators.drop (k + 1) := by
    rw [← there, List.getElem_cons_drop, List.take_append_drop]
  rw [alternatives_eq, split, List.map_append, List.map_cons, List.append_assoc, List.cons_append]
  exact firstOf_of_refused _ (operators_refuse earlier) (operator_complete h)

theorem operators_not_opened {d : Char} (first : opens d = true) :
    ∀ o ∈ operators, ¬ o.1 <+: d :: cs := by
  simp only [operators, List.forall_mem_cons]
  refine ⟨?_, ?_, ?_, ?_, ?_, ?_, ?_, List.forall_mem_nil _⟩
  all_goals exact not_prefix_of_opens first rfl

/-- Where a number ends the text, no dash follows. -/
theorem dashed_refuses (h : Padded cs n.toInt) : Refuses dashed cs := by
  rintro ⟨e, rest⟩ read
  obtain ⟨⟨low, behind⟩, first, read⟩ := exists_of_bind read
  obtain ⟨⟨_, after⟩, marked, -⟩ := exists_of_bind read
  have all := number_complete h stops_nil
  rw [List.append_nil, first] at all
  cases all
  cases mark_sound marked

/-- Each text of the grammar is read whole by the first form that reads some beginning of it. -/
theorem firstOf_complete (h : Written cs e) : firstOf alternatives cs = .ok (e, []) := by
  cases h with
  | atLeast h => exact firstOf_operator 0 rfl (List.forall_mem_nil _) h
  | above h =>
    -- no longer operator stands here, since no number begins with its second character
    obtain ⟨d, more, rfl, first⟩ := h.head
    have equals : ¬ ['='] <+: d :: more := not_prefix_of_opens first rfl
    exact firstOf_operator 1 rfl (by simpa [operators] using equals) h
  | atMost h => exact firstOf_operator 2 rfl (by simp [operators]) h
  | notEqual h => exact firstOf_operator 3 rfl (by simp [operators]) h
  | unequal h => exact firstOf_operator 4 rfl (by simp [operators]) h
  | below h =>
    obtain ⟨d, more, rfl, first⟩ := h.head
    have equals : ¬ ['='] <+: d :: more := not_prefix_of_opens first rfl
    have greater : ¬ ['>'] <+: d :: more := not_prefix_of_opens first rfl
    exact firstOf_operator 5 rfl (by simpa [operators] using And.intro equals greater) h
  | equal h => exact firstOf_operator 6 rfl (by simp [operators]) h
  | between hl hh =>
    have read := dashed_complete hl hh
    obtain ⟨d, more, rfl, first⟩ := hl.head
    exact firstOf_of_refused _ (operators_refuse (operators_not_opened first)) read
  | bare h =>
    have refused := dashed_refuses h
    obtain ⟨d, more, rfl, first⟩ := h.head
    have read : operator [] .equal (d :: more) = .ok (.equal _, []) := operator_complete h
    refine firstOf_of_refused (operators.map (fun o => operator o.1 o.2) ++ [dashed]) ?_ read
    rw [List.forall_mem_append, List.forall_mem_singleton]
    exact ⟨operators_refuse (operators_not_opened first), refused⟩

theorem written_of_operator :
    ∀ o ∈ operators, ∀ {w : List Char} {n : Int64}, Padded w n.toInt → Written (o.1 ++ w) (o.2 n) := by
  simp only [operators, List.forall_mem_cons]
  exact ⟨.atLeast, .above, .atMost, .notEqual, .unequal, .below, .equal, List.forall_mem_nil _⟩

/-- What one of the forms reads whole is a text of the grammar. -/
theorem written_of_alternative {scan : Scan RangeExpr} (hs : scan ∈ alternatives)
    (h : scan cs = .ok (e, [])) : Written cs e := by
  rw [alternatives_eq, List.mem_append, List.mem_map] at hs
  rcases hs with ⟨o, ho, rfl⟩ | hs
  · obtain ⟨w, n, rfl, padded, rfl⟩ := operator_sound h
    rw [List.append_nil]
    exact written_of_operator o ho padded
  · rw [List.mem_cons, List.mem_singleton] at hs
    rcases hs with rfl | rfl
    · obtain ⟨ls, hs, low, high, rfl, hl, hh, rfl⟩ := dashed_sound h
      rw [List.append_nil]
      exact .between hl hh
    · obtain ⟨w, n, rfl, padded, rfl⟩ := operator_sound h
      rw [List.append_nil]
      exact .bare padded

/-! ## Reading -/

theorem parse_eq_ok_iff {text : String} :
    parse text = .ok e ↔ Written (Text.trim text.toList) e := by
  rw [parse, whole_ok_iff]
  constructor
  · intro h
    obtain ⟨scan, hs, read⟩ := exists_of_firstOf h
    exact written_of_alternative hs read
  · exact firstOf_complete

/-- A text is read as an expression exactly if what is left of it without the blanks at its ends is
written so by the grammar; no text is written so for two expressions; and what any of the forms would
read whole, whatever forms come before it, is read. -/
theorem parse_ok_iff_written (text : String) :
    (∀ e, parse text = .ok e ↔ ∃ core, Text.Trimmed text.toList core ∧ Written core e) ∧
    (∀ e e', Written text.toList e → Written text.toList e' → e = e') ∧
    ∀ scan ∈ alternatives, ∀ e, scan (Text.trim text.toList) = .ok (e, []) →
      parse text = .ok e := by
  refine ⟨fun e => ?_, fun e e' h h' => ?_, fun scan hs e read => ?_⟩
  · rw [parse_eq_ok_iff]
    constructor
    · intro h
      exact ⟨_, Text.trimmed_trim _, h⟩
    · rintro ⟨core, trimmed, h⟩
      rw [← Text.trimmed_iff.1 trimmed]
      exact h
  · have same := (firstOf_complete h).symm.trans (firstOf_complete h')
    cases same
    rfl
  · exact parse_eq_ok_iff.2 (written_of_alternative hs read)

/-- One dash stands between the numbers, the other is the sign of the second. -/
theorem parse_ok_iff_written_dashes :
    parse "\t5 --3\n" = .ok (.between 5 (-3)) ∧
    (∃ core, Text.Trimmed "\t5 --3\n".toList core ∧ Written core (.between 5 (-3))) ∧
    ∀ e, Written "5 --3".toList e → e = .between 5 (-3) := by
  have read : parse "\t5 --3\n" = .ok (.between 5 (-3)) := by decide +kernel
  have bare : Text.trim "5 --3".toList = "5 --3".toList := by decide +kernel
  have inner : parse "5 --3" = .ok (.between 5 (-3)) := by decide +kernel
  rw [parse_eq_ok_iff, bare] at inner
  exact ⟨read, ((parse_ok_iff_written _).1 _).1 read,
    fun e h => (parse_ok_iff_written "5 --3").2.1 e _ h inner⟩

end RangeExpr

end EventRules
