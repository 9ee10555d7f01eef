import SqlBinding.Proofs.Outcome
import SqlBinding.Statement

/-!
# Formatting is one substitution

A formatted statement is its template cut at the placeholders, with the literals of the arguments
between the pieces: what an argument brings into the statement is never looked at again. Therefore
formatting goes well together with putting templates one behind the other (`fill_append`). The
number of arguments is checked before any of them is written, and no literal fails with the error of
that check.
-/

set_option autoImplicit false

namespace SqlBinding

namespace Argument

mutual

/-- Why an argument has no literal: it is of a wrong type, it is an empty list, or the elements of
an array have no text. -/
theorem literal_error (d : Dialect) : ∀ (a : Argument) {e : Error}, a.literal d = .error e →
    (∃ fault, e = .argumentType fault) ∨ e = .emptyArrayArgument ∨ ∃ cause, e = .array cause
  | .null, _, h => by cases h
  | .bool _, _, h => by cases h
  | .int _, _, h => by cases h
  | .uint _, _, h => by cases h
  | .float32 x, _, h => by
    unfold literal floatLiteral at h
    split at h
    · cases h
    · cases h
      exact .inl ⟨_, rfl⟩
  | .float64 x, _, h => by
    unfold literal floatLiteral at h
    split at h
    · cases h
    · cases h
      exact .inl ⟨_, rfl⟩
  | .text _, _, h => by cases h
  | .bytes _, _, h => by cases h
  | .timestamp _, _, h => by cases h
  | .nullable inner valid, _, h => by
    unfold literal at h
    split at h
    · exact literal_error d inner h
    · cases h
  | .list [], _, h => by
    cases h
    exact .inr (.inl rfl)
  | .list (item :: items), _, h => by
    unfold literal at h
    exact literals_error d (item :: items) (Outcome.map_eq_error_iff.1 h)
  | .array a, _, h => by
    unfold literal at h
    split at h
    · cases h
    · cases h
      exact .inr (.inr ⟨_, rfl⟩)

/-- The elements of a list fail for their kinds, for being none or in a nested array. -/
theorem literals_error (d : Dialect) : ∀ (items : List Argument) {sofar : Option Kind} {e : Error},
    literals d sofar items = .error e →
      (∃ fault, e = .argumentType fault) ∨ e = .emptyArrayArgument ∨ ∃ cause, e = .array cause
  | [], _, _, h => by cases h
  | item :: items, sofar, _, h => by
    unfold literals at h
    split at h
    · rename_i hkind
      cases h
      unfold listKind at hkind
      split at hkind
      · cases hkind
      · cases hkind
        exact .inl ⟨_, rfl⟩
      · cases hkind
        exact .inl ⟨_, rfl⟩
      · split at hkind
        · cases hkind
        · split at hkind
          · cases hkind
          · cases hkind
            exact .inl ⟨_, rfl⟩
    · split at h
      · rename_i hitem
        cases h
        exact literal_error d item hitem
      · exact literals_error d items (Outcome.map_eq_error_iff.1 h)

end

end Argument

namespace Statement

variable {d : Dialect}

/-- A placeholder is replaced with the literal of the next argument. -/
theorem fill_placeholder (cs : List Char) (a : Argument) (rest : List Argument) :
    fill d (placeholder :: cs) (a :: rest) =
      match a.literal d with
      | .error e => .error e
      | .ok text => (fill d cs rest).map (text ++ ·) := by
  rw [fill]
  exact if_pos rfl

/-- Any other character is kept. -/
theorem fill_of_ne {c : Char} (hc : c ≠ placeholder) (cs : List Char) (arguments : List Argument) :
    fill d (c :: cs) arguments = (fill d cs arguments).map (c :: ·) := by
  simp [fill, hc]

/-- Fragments of a text with other texts between them, of which there is one less. -/
def woven (fragments texts : List (List Char)) : List Char :=
  (List.zipWith (· ++ ·) fragments (texts ++ [[]])).flatten

/-- A fragment and the text behind it come before the others. -/
theorem woven_cons (fragment text : List Char) (fragments texts : List (List Char)) :
    woven (fragment :: fragments) (text :: texts) = fragment ++ text ++ woven fragments texts := by
  simp [woven]

/-- What is put in front of the first fragment is put in front of the whole. -/
theorem woven_modifyHead (c : Char) {fragments : List (List Char)} (hne : fragments ≠ [])
    (texts : List (List Char)) :
    woven (fragments.modifyHead (c :: ·)) texts = c :: woven fragments texts := by
  cases fragments with
  | nil => exact absurd rfl hne
  | cons fragment fragments => cases texts <;> simp [woven]

/-- A template with as many placeholders as there are arguments, filled: the literals stand between
the pieces that the placeholders cut it into. -/
theorem fill_eq_woven {template : List Char} {arguments : List Argument}
    (hcount : placeholders template = arguments.length) :
    fill d template arguments =
      (arguments.mapM (Argument.literal d)).map (woven (template.splitOn placeholder)) := by
  induction template generalizing arguments with
  | nil =>
    obtain rfl : arguments = [] := List.length_eq_zero_iff.1 hcount.symm
    rfl
  | cons c template ih =>
    by_cases hc : c = placeholder
    · subst hc
      cases arguments with
      | nil => simp [placeholders] at hcount
      | cons a rest =>
        have hrest : placeholders template = rest.length := by
          simpa [placeholders] using hcount
        have hsplit : (placeholder :: template).splitOn placeholder =
            [] :: template.splitOn placeholder := by
          simp [List.splitOn_eq_splitOnP, List.splitOnP_cons_eq_if_modifyHead]
        rw [fill_placeholder, List.mapM_cons, hsplit, ih hrest]
        cases a.literal d with
        | error e => rfl
        | ok text =>
          cases rest.mapM (Argument.literal d) with
          | error e => rfl
          | ok texts =>
            show Except.ok (text ++ woven _ texts) = Except.ok (woven ([] :: _) (text :: texts))
            rw [woven_cons, List.nil_append]
    · have hrest : placeholders template = arguments.length := by
        simpa [placeholders, List.count_cons, hc] using hcount
      have hsplit : (c :: template).splitOn placeholder =
          (template.splitOn placeholder).modifyHead (c :: ·) := by
        simp [List.splitOn_eq_splitOnP, List.splitOnP_cons_eq_if_modifyHead, hc]
      rw [fill_of_ne hc, hsplit, ih hrest]
      cases arguments.mapM (Argument.literal d) with
      | error e => rfl
      | ok texts =>
        show Except.ok (c :: woven _ texts) = Except.ok (woven _ texts)
        rw [woven_modifyHead c (List.splitOn_ne_nil placeholder template)]

/-- Filling goes through a template from left to right, and uses up the arguments on its way. -/
theorem fill_append {template template' : List Char} {arguments arguments' : List Argument}
    (hcount : placeholders template = arguments.length) :
    fill d (template ++ template') (arguments ++ arguments') = do
      let front ← fill d template arguments
      let back ← fill d template' arguments'
      return front ++ back := by
  induction template generalizing arguments with
  | nil =>
    obtain rfl : arguments = [] := List.length_eq_zero_iff.1 hcount.symm
    show fill d template' arguments' = (fill d template' arguments').bind fun back => .ok back
    cases fill d template' arguments' <;> rfl
  | cons c template ih =>
    by_cases hc : c = placeholder
    · subst hc
      cases arguments with
      | nil => simp [placeholders] at hcount
      | cons a rest =>
        have hrest : placeholders template = rest.length := by
          simpa [placeholders] using hcount
        rw [List.cons_append, List.cons_append, fill_placeholder, fill_placeholder, ih hrest]
        cases a.literal d with
        | error e => rfl
        | ok text =>
          cases fill d template rest with
          | error e => rfl
          | ok front =>
            cases fill d template' arguments' with
            | error e => rfl
            | ok back => exact congrArg Except.ok (List.append_assoc text front back).symm
    · have hrest : placeholders template = arguments.length := by
        simpa [placeholders, List.count_cons, hc] using hcount
      rw [List.cons_append, fill_of_ne hc, fill_of_ne hc, ih hrest]
      cases fill d template arguments with
      | error e => rfl
      | ok front => cases fill d template' arguments' <;> rfl

/-- Formatting fills a template with as many placeholders as there are arguments, also where there
are none. -/
theorem format_eq_fill {template : List Char} {arguments : List Argument}
    (hcount : placeholders template = arguments.length) :
    format d template arguments = fill d template arguments := by
  cases arguments with
  | cons a rest => simp [format, hcount]
  | nil =>
    rw [fill_eq_woven hcount]
    have hwhole : template.splitOn placeholder = [template] := by
      refine List.splitOn_eq_singleton ?_
      exact List.count_eq_zero.1 hcount
    show Except.ok template = Except.ok (woven (template.splitOn placeholder) [])
    rw [hwhole]
    simp [woven]

/-- As many arguments as placeholders are put between the pieces of the template. -/
theorem format_eq_woven {template : List Char} {arguments : List Argument}
    (hcount : placeholders template = arguments.length) :
    format d template arguments =
      (arguments.mapM (Argument.literal d)).map (woven (template.splitOn placeholder)) := by
  rw [format_eq_fill hcount, fill_eq_woven hcount]

/-- Rows are formatted into the group one by one. -/
theorem formatRows_eq_mapM (d : Dialect) (group : List Char) (rows : List (List Argument)) :
    formatRows d group rows = rows.mapM (format d group) := by
  induction rows with
  | nil => rfl
  | cons row rows ih =>
    rw [formatRows, List.mapM_cons, ih]
    cases format d group row with
    | error e => rfl
    | ok text => cases rows.mapM (format d group) <;> rfl

/-- What the number of arguments has to do with is settled before a template is filled. -/
theorem fill_ne_statementFormat (template : List Char) (arguments : List Argument) (n k : Nat) :
    fill d template arguments ≠ .error (.statementFormat n k) := by
  induction template generalizing arguments with
  | nil =>
    intro h
    cases h
  | cons c template ih =>
    intro h
    unfold fill at h
    split at h
    · split at h
      · exact ih [] (Outcome.map_eq_error_iff.1 h)
      · split at h
        · rename_i hliteral
          cases h
          rcases Argument.literal_error d _ hliteral with ⟨_, hcause⟩ | hcause | ⟨_, hcause⟩ <;>
            cases hcause
        · exact ih _ (Outcome.map_eq_error_iff.1 h)
    · exact ih arguments (Outcome.map_eq_error_iff.1 h)

/-- Formatting fails for the number of arguments exactly if it is another one than that of the
placeholders. Otherwise it puts the literals of the arguments in their places in one pass, unless an
argument has none, the first of which decides; and templates may be formatted one by one. -/
theorem format_substitutes (d : Dialect) (template : List Char) (arguments : List Argument)
    (hplaceholder : 0 < placeholders template) (harguments : arguments ≠ []) :
    (∀ n k, format d template arguments = .error (.statementFormat n k) ↔
      n = placeholders template ∧ k = arguments.length ∧ n ≠ k) ∧
    (placeholders template = arguments.length →
      format d template arguments =
        (arguments.mapM (Argument.literal d)).map (woven (template.splitOn placeholder))) ∧
    ∀ front back before after, placeholders front = before.length →
      placeholders back = after.length →
      format d (front ++ back) (before ++ after) = do
        let first ← format d front before
        let second ← format d back after
        return first ++ second := by
  refine ⟨fun n k => ?_, fun hcount => ?_, fun front back before after hfront hback => ?_⟩
  · by_cases hcount : placeholders template = arguments.length
    · rw [format_eq_fill hcount]
      constructor
      · intro h
        exact absurd h (fill_ne_statementFormat template arguments n k)
      · rintro ⟨rfl, rfl, hne⟩
        exact absurd hcount hne
    · have hsome : ¬ (arguments.isEmpty || placeholders template == 0) := by
        simp [harguments, Nat.ne_of_gt hplaceholder]
      rw [format, if_neg hsome, if_neg hcount]
      constructor
      · intro h
        cases h
        exact ⟨rfl, rfl, hcount⟩
      · rintro ⟨rfl, rfl, -⟩
        rfl
  · rw [format_eq_fill hcount, fill_eq_woven hcount]
  · have hboth : placeholders (front ++ back) = (before ++ after).length := by
      rw [placeholders, List.count_append, List.length_append, ← hfront, ← hback]
      rfl
    rw [format_eq_fill hboth, format_eq_fill hfront, format_eq_fill hback, fill_append hfront]

/-- Texts full of question marks, at both ends of a template and between other placeholders. -/
theorem format_substitutes_question_marks :
    let template := "?, '?' OR a=?".toList
    let arguments : List Argument := [.text "?", .list [.text "??", .null], .text "it's ?"]
    0 < placeholders template ∧ arguments ≠ [] ∧
      format .sqlite template arguments = .ok "'?', '('??',NULL)' OR a='it''s ?'".toList := by
  intro template arguments
  have hplaceholder : 0 < placeholders template := by decide
  have harguments : arguments ≠ [] := List.cons_ne_nil _ _
  refine ⟨hplaceholder, harguments, ?_⟩
  rw [(format_substitutes .sqlite template arguments hplaceholder harguments).2.1 (by decide)]
  rfl

end Statement

end SqlBinding
