import Mathlib.Tactic.SplitIfs
import SqlBinding.Proofs.Literal.Reader
import SqlBinding.Proofs.Numeric.DecimalText

/-!
# String literals as a server reads them

How a reader that stands outside literals reads the literal of a text: the literal ends where it is
meant to end and spells exactly that text. The dialects differ in how they spell a character; what
they share is `Reads.flatMap`, by which a literal is read back if what spells one character is read
as that character and keeps the reader inside.
-/

set_option autoImplicit false

namespace SqlBinding

open Numeric ReadingState

/-- Whether the literals of arguments may leave a character outside string literals: the characters
of numbers, of `NULL` and of lists, and the letter that announces a literal. A byte string of the
legacy dialect is not between its quotes, and stands outside as a whole. -/
def Dialect.leavesBare (d : Dialect) (c : Char) : Bool :=
  isNumeral c || ['(', ',', ')', 'N', 'U', 'L'].contains c ||
    match d with
    | .legacy => ['X', '\'', 'a', 'b', 'c', 'd', 'e', 'f'].contains c
    | .mySql | .sqlite => c == 'X'
    | .postgres => c == 'E'

namespace Dialect

/-! ### Characters that need no escape -/

/-- The characters that some dialect spells in another way inside a literal. -/
def specialChars : List Char := ['\x00', '\n', '\r', '\x1a', '\'', '"', '\\']

/-- A text stays as it is if each of its characters does. -/
theorem flatMap_eq_self {f : Char → List Char} {cs : List Char} (h : ∀ c ∈ cs, f c = [c]) :
    cs.flatMap f = cs := by
  rw [List.flatMap_def, List.map_congr_left h, ← List.flatMap_def, List.flatMap_singleton']

/-- Escaping changes nothing in a text without special characters. -/
theorem escaped_eq_self {p : Char → Bool} {cs : List Char} (h : ∀ c ∈ cs, p c = false) :
    escaped p cs = cs :=
  flatMap_eq_self fun c hc => if_neg (by rw [h c hc]; exact Bool.false_ne_true)

/-- Without quotes there is nothing to double. -/
theorem doubled_eq_self {cs : List Char} (h : '\'' ∉ cs) : doubled cs = cs :=
  flatMap_eq_self fun _ hc => if_neg (ne_of_mem_of_not_mem hc h)

/-- A text without special characters stands in its literal as it is, between two quotes. -/
theorem exists_quote_eq {cs : List Char} (h : ∀ c ∈ cs, c ∉ specialChars) (d : Dialect) :
    ∃ mark ∈ ['\'', '"'], d.quote cs = mark :: (cs ++ [mark]) := by
  have hne (special : Char) (hspecial : special ∈ specialChars) : ∀ c ∈ cs, c ≠ special :=
    fun c hc heq => h c hc (heq ▸ hspecial)
  have hdoubled : doubled cs = cs := doubled_eq_self fun hc => h '\'' hc (by decide)
  cases d with
  | legacy =>
    have hescaped : escaped (fun c => c == '"' || c == '\\') cs = cs :=
      escaped_eq_self fun c hc => by
        simp [hne '"' (by decide) c hc, hne '\\' (by decide) c hc]
    exact ⟨'"', by decide, by simp [quote, hescaped]⟩
  | mySql =>
    have hescaped : cs.flatMap mySqlEscape = cs := flatMap_eq_self fun c hc => by
      have hc := h c hc
      simp only [specialChars, List.mem_cons, not_or] at hc
      simp [mySqlEscape, hc]
    exact ⟨'\'', by decide, by simp [quote, hescaped]⟩
  | postgres =>
    have hbackslash : '\\' ∉ cs := fun hc => h '\\' hc (by decide)
    exact ⟨'\'', by decide, by simp [quote, hdoubled, hbackslash]⟩
  | sqlite => exact ⟨'\'', by decide, by simp [quote, hdoubled]⟩

end Dialect

namespace Reader

variable {R : Reader}

namespace Reads

variable {e : Bool}

/-- A literal whose characters are each spelled in a way that keeps the reader inside. -/
theorem flatMap {f : Char → List Char} {cs : List Char}
    (h : ∀ c ∈ cs, R.Reads (inside e) (f c) (inside e) [] [c]) :
    R.Reads (inside e) (cs.flatMap f) (inside e) [] cs := by
  induction cs with
  | nil => exact .nil
  | cons c cs ih =>
    have hc := h c (List.mem_cons_self ..)
    have hcs := ih fun x hx => h x (List.mem_cons_of_mem c hx)
    simpa using hc.append hcs

/-- Inside a literal, characters that are no quote and no backslash are taken for themselves. -/
theorem verbatim {cs : List Char} (h : ∀ c ∈ cs, c ≠ R.quoteMark ∧ ¬ (e ∧ c = '\\')) :
    R.Reads (inside e) cs (inside e) [] cs := by
  have := flatMap (R := R) (f := fun c => [c]) fun c hc => ordinary (h c hc).1 (h c hc).2
  simpa using this

/-- Between quotes stands what is read from behind the first one to in front of the last one. -/
theorem enclosed (trail : Trail) {body text : List Char}
    (h : R.Reads (inside (R.escapes trail)) body (inside (R.escapes trail)) [] text) :
    R.Reads (outside trail) (R.quoteMark :: body ++ [R.quoteMark])
      (R.closed (R.escapes trail)) [] text := by
  simpa using ((opening trail).append h).append (ending (R.escapes trail))

/-- Text without quotes stays outside literals and is bare as a whole. -/
theorem plain (trail : Trail) {cs : List Char} (h : R.quoteMark ∉ cs) :
    ∃ last, R.Reads (outside trail) cs (outside last) cs [] := by
  induction cs generalizing trail with
  | nil => exact ⟨trail, .nil⟩
  | cons c cs ih =>
    obtain ⟨hc, hcs⟩ := not_or.1 (mt List.mem_cons.2 h)
    obtain ⟨next, hnext, -⟩ := between (R := R) (s := outside trail) rfl (Ne.symm hc)
    obtain ⟨last, hlast⟩ := ih next hcs
    exact ⟨last, hnext.append hlast⟩

end Reads

/-- Behind its closing quote a literal is over, unless another quote follows. -/
theorem settled_closed (e : Bool) : (R.closed e).settled := by
  unfold closed
  split <;> rfl

/-- Text with its quotes doubled is taken for the text. -/
theorem reads_doubled (hd : R.doubles) (hq : R.quoteMark = '\'') (cs : List Char) :
    R.Reads (inside false) (Dialect.doubled cs) (inside false) [] cs := by
  apply Reads.flatMap
  intro c _
  by_cases hc : c = '\''
  · have := Reads.twice hd false
    rw [hq] at this
    simpa [hc] using this
  · simpa [hc] using Reads.ordinary (R := R) (hq ▸ hc) (e := false) (by simp)

/-- A text in which every quote is doubled and then a backslash put before every backslash. -/
theorem reads_escaped_doubled (hd : R.dialect = .postgres) (cs : List Char) :
    R.Reads (inside true) (Dialect.escaped (· == '\\') (Dialect.doubled cs)) (inside true) []
      cs := by
  have hq : R.quoteMark = '\'' := by simp [quoteMark, hd]
  rw [Dialect.escaped, Dialect.doubled, List.flatMap_assoc]
  apply Reads.flatMap
  intro c _
  by_cases hc : c = '\''
  · have := Reads.twice (R := R) (by simp [doubles, hd]) true
    rw [hq] at this
    simpa [hc] using this
  · by_cases hb : c = '\\'
    · simpa [hb, unescape, hd] using Reads.escape (R := R) '\\'
    · simpa [hc, hb] using Reads.ordinary (R := R) (hq ▸ hc) (e := true) (by simp [hb])

/-- The legacy dialect takes a text for itself when its quotes and backslashes are escaped. -/
theorem reads_escaped (hd : R.dialect = .legacy) (cs : List Char) :
    R.Reads (inside true) (Dialect.escaped (fun c => c == '"' || c == '\\') cs) (inside true) []
      cs := by
  have hq : R.quoteMark = '"' := by simp [quoteMark, hd]
  apply Reads.flatMap
  intro c _
  by_cases hc : c = '"' ∨ c = '\\'
  · simpa [hc, unescape, hd] using Reads.escape (R := R) c
  · obtain ⟨hquote, hslash⟩ := not_or.1 hc
    simpa [hc] using Reads.ordinary (R := R) (hq ▸ hquote) (e := true) (by simp [hslash])

/-- Every character that MySQL spells in its own way is taken for itself. -/
theorem reads_mySqlEscape (hd : R.dialect = .mySql) (c : Char) :
    R.Reads (inside true) (Dialect.mySqlEscape c) (inside true) [] [c] := by
  have hq : R.quoteMark = '\'' := by simp [quoteMark, hd]
  unfold Dialect.mySqlEscape
  have escaped {letter : Char} (h : R.unescape letter = c) :
      R.Reads (inside true) ['\\', letter] (inside true) [] [c] := h ▸ Reads.escape letter
  split_ifs with h0 hn hr hz hs
  · exact escaped (by simp [unescape, hd, h0])
  · exact escaped (by simp [unescape, hd, hn])
  · exact escaped (by simp [unescape, hd, hr])
  · exact escaped (by simp [unescape, hd, hz])
  · exact escaped (by rcases hs with rfl | rfl | rfl <;> simp [unescape, hd])
  · simp only [not_or] at hs
    exact Reads.ordinary (hq ▸ hs.1) (by simp [hs.2.2])

/-- A text is read back from its literal, in front of which at most the announcing letter stands
outside. -/
theorem reads_quote (R : Reader) (cs : List Char) :
    ∃ e bare, R.Reads start (R.dialect.quote cs) (R.closed e) bare cs ∧
      ∀ c ∈ bare, R.dialect.leavesBare c := by
  cases hd : R.dialect with
  | legacy =>
    have hq : R.quoteMark = '"' := by simp [quoteMark, hd]
    have he : R.escapes .separate = true := by simp [escapes, hd]
    have h := Reads.enclosed .separate (he ▸ reads_escaped hd cs)
    exact ⟨R.escapes .separate, [], by simpa [start, Dialect.quote, hq] using h, by simp⟩
  | mySql =>
    have hq : R.quoteMark = '\'' := by simp [quoteMark, hd]
    have he : R.escapes .separate = true := by simp [escapes, hd]
    have h := Reads.enclosed .separate
      (he ▸ Reads.flatMap fun c (_ : c ∈ cs) => reads_mySqlEscape hd c)
    exact ⟨R.escapes .separate, [], by simpa [start, Dialect.quote, hq] using h, by simp⟩
  | sqlite =>
    have hq : R.quoteMark = '\'' := by simp [quoteMark, hd]
    have he : R.escapes .separate = false := by simp [escapes, hd]
    have h := Reads.enclosed .separate
      (he ▸ reads_doubled (by simp [doubles, hd]) hq cs)
    exact ⟨R.escapes .separate, [], by simpa [start, Dialect.quote, hq] using h, by simp⟩
  | postgres =>
    have hq : R.quoteMark = '\'' := by simp [quoteMark, hd]
    by_cases hb : cs.contains '\\'
    · have he : R.escapes .mark = true := by simp [escapes, hd]
      have h := Reads.enclosed .mark (he ▸ reads_escaped_doubled hd cs)
      have hmark : R.Reads start ['E'] (outside .mark) ['E'] [] := by
        constructor <;>
          simp [run, step, bare, bareAt, contents, contentAt, start, hq, trailAfter, isIdentifier]
      refine ⟨R.escapes .mark, ['E'], ?_, by simp [Dialect.leavesBare]⟩
      have hb' : '\\' ∈ cs := by simpa using hb
      simpa [Dialect.quote, hb', hq] using hmark.append h
    · have he : R.escapes .separate = false := by simp [escapes, hd]
      have h := Reads.enclosed .separate
        (he ▸ reads_doubled (by simp [doubles, hd]) hq cs)
      have hb' : '\\' ∉ cs := by simpa using hb
      exact ⟨R.escapes .separate, [], by simpa [start, Dialect.quote, hb', hq] using h, by simp⟩

end Reader

end SqlBinding
