import Mathlib.Data.List.Induction
import SqlBinding.Statement
import SqlBinding.Proofs.Outcome
import SqlBinding.Proofs.Literal.Arguments
import SqlBinding.Proofs.Statement.Substitution

/-!
# Arguments stay inside their literals

A formatted statement is the template in which every placeholder has given way to the literal of its
argument. A server that reads the statement is outside string literals where each of these literals
begins and where it ends, and reads every character of the template as it would have read it in the
template itself. The template must leave its placeholders alone: outside string literals, and
without a quote, an identifier or another placeholder right beside them.

The statement and the template are read side by side. The two readers agree except right behind a
placeholder, and from there the next character of the template brings them together again
(`Coupled`).
-/

set_option autoImplicit false

namespace SqlBinding

open ReadingState

namespace Statement

/-- What a character of a template has become in a statement: itself, or an argument's literal. -/
inductive Piece
  | kept (c : Char)
  | filled (a : Argument) (text : List Char)

namespace Piece

/-- The character of the template. -/
def source : Piece → Char
  | kept c => c
  | filled _ _ => placeholder

/-- The text in the statement. -/
def text : Piece → List Char
  | kept c => [c]
  | filled _ text => text

/-- The argument that the piece shows. -/
def argument? : Piece → Option Argument
  | kept _ => none
  | filled a _ => some a

end Piece

/-- The template of a statement in pieces. -/
def templateOf (pieces : List Piece) : List Char := pieces.map Piece.source

/-- The statement in pieces. -/
def statementOf (pieces : List Piece) : List Char := pieces.flatMap Piece.text

/-- The arguments that a statement in pieces shows. -/
def argumentsOf (pieces : List Piece) : List Argument := pieces.filterMap Piece.argument?

end Statement

namespace Reader

open Statement

variable (R : Reader)

/-- Whether a character may stand beside a placeholder. -/
def separates (c : Char) : Bool := c != R.quoteMark && !R.isIdentifier c && c != placeholder

/-- Whether every placeholder of a template is outside string literals and has nothing beside it
that could run into the literal of an argument. -/
def Isolates (template : List Char) : Prop :=
  ∀ i < template.length, template[i]? = some placeholder →
    R.isOutside (R.run start (template.take i)) (some placeholder) ∧
      (template.take i).getLast?.all R.separates ∧ template[i + 1]?.all R.separates

instance (template : List Char) : Decidable (R.Isolates template) :=
  inferInstanceAs (Decidable (∀ i < template.length, template[i]? = some placeholder → _))

/-- What a server makes of a piece of a statement between the pieces before it and behind it. A kept
character is read as in the template. The literal of an argument begins and ends outside string
literals, and is taken for the text that the argument holds. -/
def ReadsPiece (before after : List Piece) : Piece → Prop
  | .kept c =>
    R.run start (statementOf before ++ [c]) = R.run start (templateOf before ++ [c])
  | .filled a text =>
    R.isOutside (R.run start (statementOf before)) (text ++ statementOf after).head? ∧
      R.isOutside (R.run start (statementOf before ++ text)) (statementOf after).head? ∧
      (∀ c ∈ R.bare (R.run start (statementOf before)) text, R.dialect.leavesBare c) ∧
      R.contents (R.run start (statementOf before)) text = a.quoted R.dialect

/-- Whether a server reads a statement as its template with the arguments in the places of the
placeholders. The template is only returned as it is if there is nothing to put in. -/
def Contains (template : List Char) (arguments : List Argument) (out : List Char) : Prop :=
  ∃ pieces, templateOf pieces = template ∧ statementOf pieces = out ∧
    (argumentsOf pieces = arguments ∨
      argumentsOf pieces = [] ∧ (arguments = [] ∨ placeholder ∉ template)) ∧
    (∀ a text, Piece.filled a text ∈ pieces → a.literal R.dialect = .ok text) ∧
    ∀ before piece after, pieces = before ++ piece :: after → R.ReadsPiece before after piece

end Reader

namespace Statement

variable {d : Dialect} {out : List Char} {arguments : List Argument}

/-- A template whose characters are all kept is its own statement and shows no arguments. -/
theorem pieces_of_template (cs : List Char) :
    templateOf (cs.map .kept) = cs ∧ statementOf (cs.map .kept) = cs ∧
      argumentsOf (cs.map .kept) = [] := by
  refine ⟨?_, ?_, ?_⟩
  · simp [templateOf, Function.comp_def, Piece.source]
  · simp [statementOf, List.flatMap_map, Piece.text]
  · simp [argumentsOf, Piece.argument?]

/-- A template with as many placeholders as there are arguments is filled with their literals. -/
theorem exists_pieces_of_fill {cs : List Char} (h : fill d cs arguments = .ok out)
    (hcount : placeholders cs = arguments.length) :
    ∃ pieces, templateOf pieces = cs ∧ statementOf pieces = out ∧ argumentsOf pieces = arguments ∧
      ∀ a text, Piece.filled a text ∈ pieces → a.literal d = .ok text := by
  induction cs generalizing arguments out with
  | nil =>
    cases h
    obtain rfl : arguments = [] := List.length_eq_zero_iff.1 hcount.symm
    exact ⟨[], rfl, rfl, rfl, by simp⟩
  | cons c cs ih =>
    by_cases hc : c = placeholder
    · subst hc
      cases arguments with
      | nil => simp [placeholders] at hcount
      | cons a rest =>
        rw [fill_placeholder] at h
        split at h
        · cases h
        · rename_i text htext
          obtain ⟨tail, hf, rfl⟩ := Outcome.map_eq_ok_iff.1 h
          obtain ⟨pieces, hsource, rfl, rfl, hlits⟩ := ih hf (by simpa [placeholders] using hcount)
          refine ⟨.filled a text :: pieces, ?_, rfl, rfl, ?_⟩
          · simpa [templateOf, Piece.source] using hsource
          · intro b t hb
            rcases List.mem_cons.1 hb with hb | hb
            · cases hb
              exact htext
            · exact hlits b t hb
    · rw [fill_of_ne hc] at h
      obtain ⟨tail, hf, rfl⟩ := Outcome.map_eq_ok_iff.1 h
      obtain ⟨pieces, hsource, rfl, rfl, hlits⟩ :=
        ih hf (by simpa [placeholders, List.count_cons, hc] using hcount)
      refine ⟨.kept c :: pieces, ?_, rfl, rfl, ?_⟩
      · simpa [templateOf, Piece.source] using hsource
      · intro b t hb
        rcases List.mem_cons.1 hb with hb | hb
        · cases hb
        · exact hlits b t hb

/-- A formatted statement in pieces: it shows all arguments, or there is nothing to put in and it is
the template. -/
theorem exists_pieces_of_format {cs : List Char} (h : format d cs arguments = .ok out) :
    ∃ pieces, templateOf pieces = cs ∧ statementOf pieces = out ∧
      (argumentsOf pieces = arguments ∨
        argumentsOf pieces = [] ∧ (arguments = [] ∨ placeholder ∉ cs)) ∧
      ∀ a text, Piece.filled a text ∈ pieces → a.literal d = .ok text := by
  unfold format at h
  split at h
  · rename_i hnone
    cases h
    obtain ⟨hsource, hout, hargs⟩ := pieces_of_template out
    refine ⟨_, hsource, hout, .inr ⟨hargs, ?_⟩, by simp⟩
    simpa [placeholders, List.count_eq_zero] using hnone
  · split at h
    · obtain ⟨pieces, hsource, hout, hargs, hlits⟩ := exists_pieces_of_fill h ‹_›
      exact ⟨pieces, hsource, hout, .inl hargs, hlits⟩
    · cases h

end Statement

namespace Reader

open Statement

variable {R : Reader}

/-- A reader that is outside literals, behind nothing or behind a character that separates, is where
reading begins. -/
theorem run_eq_start {cs : List Char} {next : Option Char} (h : R.isOutside (R.run start cs) next)
    (hlast : ∀ c ∈ cs.getLast?, R.separates c) : R.run start cs = start := by
  rcases List.eq_nil_or_concat cs with rfl | ⟨init, c, rfl⟩
  · rfl
  · have hc := hlast c (by simp)
    simp only [separates, Bool.and_eq_true, bne_iff_ne, Bool.not_eq_true'] at hc
    obtain ⟨⟨hquote, hident⟩, -⟩ := hc
    rw [List.concat_eq_append, run_concat] at h ⊢
    match hs : R.run start init with
    | .outside trail => simp [step, hquote, trailAfter, hident, start]
    | .closing e => simp [step, hquote, trailAfter, hident, start]
    | .inside e =>
      -- No character but a quote would have led out of the literal.
      rw [hs] at h
      simp only [step, if_neg hquote] at h
      split at h <;> simp [isOutside] at h
    | .escaped =>
      rw [hs] at h
      simp [step, isOutside] at h

/-- A character that separates takes a reader outside literals back to where reading begins. -/
theorem step_eq_start {s : ReadingState} {c : Char} (hs : s.settled) (hc : R.separates c) :
    R.step s c = start := by
  simp only [separates, Bool.and_eq_true, bne_iff_ne, Bool.not_eq_true'] at hc
  obtain ⟨⟨hquote, hident⟩, -⟩ := hc
  match s, hs with
  | .outside trail, _ => simp [step, hquote, trailAfter, hident, start]
  | .closing e, _ => simp [step, hquote, trailAfter, hident, start]

/-- The placeholder separates what stands around it, and is no neighbour of another one. -/
theorem step_placeholder : R.step start placeholder = start := by
  have hquote : placeholder ≠ R.quoteMark := ne_quoteMark (by decide) (by decide)
  have hident : R.isIdentifier placeholder = false := by simp [isIdentifier, placeholder]
  simp [step, start, hquote, trailAfter, hident]

variable (R)

/-- How a reader of the statement and one of the template stand to each other behind some pieces:
they agree, or the template's is where reading begins while the statement's is behind a literal, and
the next character of the template separates. -/
def Coupled (before after : List Piece) : Prop :=
  R.run start (statementOf before) = R.run start (templateOf before) ∨
    R.run start (templateOf before) = start ∧ (R.run start (statementOf before)).settled ∧
      ∀ c ∈ (templateOf after).head?, R.separates c

variable {R}

/-- A kept character brings the two readers together. -/
theorem Coupled.run_kept {before after : List Piece} {c : Char}
    (h : R.Coupled before (.kept c :: after)) :
    R.run start (statementOf before ++ [c]) = R.run start (templateOf before ++ [c]) := by
  rw [run_concat, run_concat]
  rcases h with h | ⟨htemplate, hsettled, hnext⟩
  · rw [h]
  · have hc : R.separates c := hnext c (by simp [templateOf, Piece.source])
    rw [htemplate, step_eq_start hsettled hc, step_eq_start rfl hc]

/-- Where an argument begins both readers are where reading begins, and what stands behind it
separates. -/
theorem Coupled.run_filled {before after : List Piece} {a : Argument} {text : List Char}
    (hi : R.Isolates (templateOf (before ++ .filled a text :: after)))
    (h : R.Coupled before (.filled a text :: after)) :
    R.run start (statementOf before) = start ∧ R.run start (templateOf before) = start ∧
      ∀ c ∈ (templateOf after).head?, R.separates c := by
  have hsplit : templateOf (before ++ .filled a text :: after) =
      templateOf before ++ placeholder :: templateOf after := by simp [templateOf, Piece.source]
  obtain ⟨houtside, hlast, hnext⟩ := hi (templateOf before).length (by simp [hsplit])
    (by simp [hsplit])
  simp only [hsplit, List.take_left, Option.all_eq_true] at houtside hlast
  have htemplate := run_eq_start houtside hlast
  have hafter : ∀ c ∈ (templateOf after).head?, R.separates c := by
    intro c hc
    refine (Option.all_eq_true _ _).1 hnext c ?_
    rw [hsplit, List.getElem?_append_right (by omega)]
    simpa [List.head?_eq_getElem?] using hc
  rcases h with h | ⟨-, -, hsep⟩
  · exact ⟨h.trans htemplate, htemplate, hafter⟩
  · -- The placeholder would stand right behind another one.
    have := hsep placeholder (by simp [templateOf, Piece.source])
    simp [separates] at this

/-- The readers stay coupled from the beginning to the end. -/
theorem coupled_of_isolates {pieces : List Piece} (hi : R.Isolates (templateOf pieces))
    (hlits : ∀ a text, Piece.filled a text ∈ pieces → a.literal R.dialect = .ok text)
    {before after : List Piece} (h : pieces = before ++ after) : R.Coupled before after := by
  induction before using List.reverseRecOn generalizing after with
  | nil => exact .inl rfl
  | append_singleton before piece ih =>
    rw [List.append_assoc, List.singleton_append] at h
    have hbefore := ih h
    cases piece with
    | kept c =>
      left
      simpa [statementOf, templateOf, Piece.text, Piece.source] using hbefore.run_kept
    | filled a text =>
      right
      obtain ⟨hstatement, htemplate, hnext⟩ := hbefore.run_filled (h ▸ hi)
      have hlit := hlits a text (by simp [h])
      obtain ⟨t, bare, hreads, hsettled, -⟩ := harmless_literal a hlit
      refine ⟨?_, ?_, hnext⟩
      · simp only [templateOf, List.map_append, List.map_cons, List.map_nil, Piece.source,
          run_concat] at htemplate ⊢
        rw [htemplate, step_placeholder]
      · simp only [statementOf, List.flatMap_append, List.flatMap_cons, List.flatMap_nil,
          Piece.text, List.append_nil, run_append] at hstatement ⊢
        rw [hstatement, hreads.run_eq]
        exact hsettled

/-- A reader behind a literal is outside it if what follows in the template separates. -/
theorem isOutside_of_settled {s : ReadingState} (hs : s.settled) {after : List Piece}
    (hnext : ∀ c ∈ (templateOf after).head?, R.separates c) :
    R.isOutside s (statementOf after).head? := by
  match s, hs with
  | .outside trail, _ => rfl
  | .closing e, _ =>
    cases after with
    | nil => rfl
    | cons piece after =>
      have hc : R.separates piece.source := hnext _ (by simp [templateOf])
      cases piece with
      | kept c =>
        simp only [separates, Piece.source, Bool.and_eq_true, bne_iff_ne] at hc
        simpa [isOutside, statementOf, Piece.text] using hc.1.1
      | filled a text => simp [separates, Piece.source] at hc

end Reader

open Statement in
/-- In a statement formatted from a template that isolates its placeholders, every literal of an
argument begins and ends outside string literals, leaves only harmless characters outside them and
is taken for what the argument holds, and every character of the template is read as in the
template. -/
theorem format_contains_arguments (R : Reader) (template out : List Char)
    (arguments : List Argument) (hi : R.Isolates template)
    (h : Statement.format R.dialect template arguments = .ok out) :
    R.Contains template arguments out := by
  obtain ⟨pieces, rfl, hout, hargs, hlits⟩ := exists_pieces_of_format h
  refine ⟨pieces, rfl, hout, hargs, hlits, ?_⟩
  intro before piece after hsplit
  have hcoupled := Reader.coupled_of_isolates hi hlits hsplit
  cases piece with
  | kept c => exact hcoupled.run_kept
  | filled a text =>
    obtain ⟨hstart, -, hnext⟩ := hcoupled.run_filled (hsplit ▸ hi)
    obtain ⟨t, bare, hreads, hsettled, hbare⟩ :=
      Reader.harmless_literal a (hlits a text (by simp [hsplit]))
    refine ⟨by rw [hstart]; rfl, ?_, ?_, ?_⟩
    · rw [Reader.run_append, hstart, hreads.run_eq]
      exact Reader.isOutside_of_settled hsettled hnext
    · rw [hstart, hreads.bare_eq]
      exact hbare
    · rw [hstart, hreads.contents_eq]

/-- A text that tries to end its literal and begin another statement, and a list that ends with a
backslash. -/
theorem format_contains_hostile_arguments :
    let R : Reader := ⟨.postgres, fun _ => false⟩
    let arguments : List Argument :=
      [.text "\\'; DROP TABLE t; --", .list [.text "it's", .null, .text "\\"]]
    let out :=
      "SELECT 'x' WHERE a=E'\\\\''; DROP TABLE t; --' OR b IN ('it''s',NULL,E'\\\\')".toList
    R.Isolates "SELECT 'x' WHERE a=? OR b IN ?".toList ∧
      Statement.format .postgres "SELECT 'x' WHERE a=? OR b IN ?".toList arguments = .ok out ∧
      R.Contains "SELECT 'x' WHERE a=? OR b IN ?".toList arguments out := by
  intro R arguments out
  have hi : R.Isolates "SELECT 'x' WHERE a=? OR b IN ?".toList := by decide +kernel
  have h : Statement.format R.dialect "SELECT 'x' WHERE a=? OR b IN ?".toList arguments =
      .ok out := by
    rfl
  exact ⟨hi, h, format_contains_arguments R _ out arguments hi h⟩

end SqlBinding
