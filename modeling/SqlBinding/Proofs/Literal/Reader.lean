import SqlBinding.Dialect

/-!
# Reading the string literals of a statement

A server reads a statement from left to right and knows at every character whether it stands inside
a string literal. `Reader.step` is that reader: a literal stands between the quotes of the dialect,
two quotes spell one where the dialect says so, and in a literal with escapes a backslash takes the
next character. In PostgreSQL the escapes are announced by an `E` that is an identifier of its own.

A piece of text is described by `Reader.Reads`: the state it leads to, the characters outside
literals, and the text that its literals spell. Descriptions of two pieces compose, so a literal is
described by describing what spells one character of it.
-/

set_option autoImplicit false

namespace SqlBinding

/-- What the text outside literals ends with, as far as a quote behind it is concerned. -/
inductive Trail
  /-- No identifier. -/
  | separate
  /-- The identifier `E`. -/
  | mark
  /-- Any other identifier. -/
  | word
  deriving DecidableEq, Repr

/-- Where a reader stands. -/
inductive ReadingState
  | outside (trail : Trail)
  /-- Inside a literal, in which a backslash may take the next character. -/
  | inside (escapes : Bool)
  /-- Inside a literal, behind such a backslash. -/
  | escaped
  /-- Behind a quote, which ends the literal unless another quote follows. -/
  | closing (escapes : Bool)
  deriving DecidableEq, Repr

namespace ReadingState

/-- Where reading begins. -/
def start : ReadingState := outside .separate

/-- Whether the reader is outside literals, or will be unless a quote follows. -/
def settled : ReadingState → Bool
  | outside _ | closing _ => true
  | inside _ | escaped => false

end ReadingState

/-- A reader of a dialect. Which characters beyond ASCII are letters differs between servers. -/
structure Reader where
  dialect : Dialect
  letter : Char → Bool

namespace Reader

open ReadingState

variable (R : Reader)

/-- The character that begins and ends a literal. -/
def quoteMark : Char :=
  match R.dialect with
  | .legacy => '"'
  | .mySql | .postgres | .sqlite => '\''

/-- Whether two quotes inside a literal spell one. -/
def doubles : Bool := R.dialect != .legacy

/-- Whether a literal that begins behind the given text has escapes. -/
def escapes (trail : Trail) : Bool :=
  match R.dialect with
  | .legacy | .mySql => true
  | .postgres => trail == .mark
  | .sqlite => false

/-- The character that a backslash and `c` spell. -/
def unescape (c : Char) : Char :=
  match R.dialect with
  | .mySql =>
    if c = '0' then '\x00' else if c = 'n' then '\n' else if c = 'r' then '\r'
    else if c = 'Z' then '\x1a' else c
  | .legacy | .postgres | .sqlite => c

/-- Whether a character belongs to identifiers and numbers. -/
def isIdentifier (c : Char) : Bool :=
  if c.toNat < 128 then c.isAlphanum || c == '_' else R.letter c

/-- What the text outside literals ends with after one more character. -/
def trailAfter (trail : Trail) (c : Char) : Trail :=
  if R.isIdentifier c then
    if trail = .separate ∧ (c = 'E' ∨ c = 'e') then .mark else .word
  else .separate

/-- The state behind the closing quote of a literal. -/
def closed (escapes : Bool) : ReadingState :=
  if R.doubles then closing escapes else outside .separate

/-- Reads one character. -/
def step : ReadingState → Char → ReadingState
  | outside trail, c =>
    if c = R.quoteMark then inside (R.escapes trail) else outside (R.trailAfter trail c)
  | inside e, c =>
    if c = R.quoteMark then R.closed e else if e ∧ c = '\\' then escaped else inside e
  | escaped, _ => inside true
  | closing e, c =>
    if c = R.quoteMark then inside e else outside (R.trailAfter .separate c)

/-- Reads a text. -/
def run (s : ReadingState) (cs : List Char) : ReadingState := cs.foldl R.step s

/-- Whether a state is outside literals when the given character is the next one. -/
def isOutside (s : ReadingState) (next : Option Char) : Bool :=
  match s with
  | outside _ => true
  | closing _ => next != some R.quoteMark
  | inside _ | escaped => false

/-- The character itself if it stands outside literals; quotes around literals belong to them. -/
def bareAt : ReadingState → Char → List Char
  | outside _, c | closing _, c => if c = R.quoteMark then [] else [c]
  | inside _, _ | escaped, _ => []

/-- What a character adds to the text that the literals spell. -/
def contentAt : ReadingState → Char → List Char
  | outside _, _ => []
  | inside e, c => if c = R.quoteMark ∨ (e ∧ c = '\\') then [] else [c]
  | escaped, c => [R.unescape c]
  | closing _, c => if c = R.quoteMark then [c] else []

/-- The characters of a text outside literals. -/
def bare : ReadingState → List Char → List Char
  | _, [] => []
  | s, c :: cs => R.bareAt s c ++ bare (R.step s c) cs

/-- The text that the literals of a text spell. -/
def contents : ReadingState → List Char → List Char
  | _, [] => []
  | s, c :: cs => R.contentAt s c ++ contents (R.step s c) cs

/-- Reading `text` from `s` on leads to `t`; `bare` stands outside literals and `contents` is what
the literals spell. -/
structure Reads (s : ReadingState) (text : List Char) (t : ReadingState)
    (bare contents : List Char) : Prop where
  run_eq : R.run s text = t
  bare_eq : R.bare s text = bare
  contents_eq : R.contents s text = contents

variable {R}

/-- A text is read by reading its first part and then the rest. -/
theorem run_append (s : ReadingState) (a b : List Char) :
    R.run s (a ++ b) = R.run (R.run s a) b := List.foldl_append

/-- The last character of a text is read from where the text before it leads. -/
theorem run_concat (s : ReadingState) (a : List Char) (c : Char) :
    R.run s (a ++ [c]) = R.step (R.run s a) c := by
  rw [run_append]
  rfl

/-- The bare characters of a text are those of its first part and then those of the rest. -/
theorem bare_append (s : ReadingState) (a b : List Char) :
    R.bare s (a ++ b) = R.bare s a ++ R.bare (R.run s a) b := by
  induction a generalizing s with
  | nil => rfl
  | cons c cs ih => simp only [List.cons_append, bare, ih, List.append_assoc, run, List.foldl_cons]

/-- Literals spell what those of the first part and then those of the rest spell. -/
theorem contents_append (s : ReadingState) (a b : List Char) :
    R.contents s (a ++ b) = R.contents s a ++ R.contents (R.run s a) b := by
  induction a generalizing s with
  | nil => rfl
  | cons c cs ih =>
    simp only [List.cons_append, contents, ih, List.append_assoc, run, List.foldl_cons]

/-- A character that is neither quote is not the one of the dialect. -/
theorem ne_quoteMark {c : Char} (hdouble : c ≠ '"') (hsingle : c ≠ '\'') : c ≠ R.quoteMark := by
  unfold quoteMark
  cases R.dialect with
  | legacy => exact hdouble
  | mySql | postgres | sqlite => exact hsingle

namespace Reads

variable {s t u : ReadingState} {a b bareA bareB contentsA contentsB : List Char}

/-- Reading nothing leads nowhere. -/
theorem nil : R.Reads s [] s [] [] := ⟨rfl, rfl, rfl⟩

/-- Texts that are read one after the other are read as one text. -/
theorem append (ha : R.Reads s a t bareA contentsA) (hb : R.Reads t b u bareB contentsB) :
    R.Reads s (a ++ b) u (bareA ++ bareB) (contentsA ++ contentsB) where
  run_eq := by rw [run_append, ha.run_eq, hb.run_eq]
  bare_eq := by rw [bare_append, ha.bare_eq, ha.run_eq, hb.bare_eq]
  contents_eq := by rw [contents_append, ha.contents_eq, ha.run_eq, hb.contents_eq]

/-- A quote outside literals opens one, and spells nothing. -/
theorem opening (trail : Trail) :
    R.Reads (outside trail) [R.quoteMark] (inside (R.escapes trail)) [] [] := by
  constructor <;> simp [run, step, bare, bareAt, contents, contentAt]

/-- A quote inside a literal ends it, as far as one can tell. -/
theorem ending (e : Bool) : R.Reads (inside e) [R.quoteMark] (R.closed e) [] [] := by
  constructor <;> simp [run, step, bare, bareAt, contents, contentAt]

/-- A character without a meaning of its own stands for itself inside a literal. -/
theorem ordinary {e : Bool} {c : Char} (hquote : c ≠ R.quoteMark) (hescape : ¬ (e ∧ c = '\\')) :
    R.Reads (inside e) [c] (inside e) [] [c] := by
  constructor <;> simp [run, step, bare, bareAt, contents, contentAt, hquote, hescape]

/-- A backslash and the character behind it spell one character. -/
theorem escape (c : Char) : R.Reads (inside true) ['\\', c] (inside true) [] [R.unescape c] := by
  have h : '\\' ≠ R.quoteMark := ne_quoteMark (by decide) (by decide)
  constructor <;> simp [run, step, bare, bareAt, contents, contentAt, h]

/-- Where quotes are doubled, two of them inside a literal spell one. -/
theorem twice (h : R.doubles) (e : Bool) :
    R.Reads (inside e) [R.quoteMark, R.quoteMark] (inside e) [] [R.quoteMark] := by
  constructor <;> simp [run, step, bare, bareAt, contents, contentAt, closed, h]

/-- A character other than a quote stays outside literals. -/
theorem between {s : ReadingState} {c : Char} (hs : s.settled) (h : c ≠ R.quoteMark) :
    ∃ trail, R.Reads s [c] (outside trail) [c] [] ∧
      (R.isIdentifier c = false → trail = .separate) := by
  match s, hs with
  | .outside trail, _ =>
    refine ⟨R.trailAfter trail c, ?_, fun hc => by simp [trailAfter, hc]⟩
    constructor <;> simp [run, step, bare, bareAt, contents, contentAt, h]
  | .closing e, _ =>
    refine ⟨R.trailAfter .separate c, ?_, fun hc => by simp [trailAfter, hc]⟩
    constructor <;> simp [run, step, bare, bareAt, contents, contentAt, h]

end Reads

end Reader

end SqlBinding
