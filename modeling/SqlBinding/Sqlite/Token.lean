import SqlBinding.Sqlite.Cell
import SqlBinding.Text.Hex
import SqlBinding.Text.Utf8

/-!
# The tokens of SQL text

SQL text is cut into words, literals and single characters. A text literal is quoted, a quote inside
it is written twice and nothing else is special; a literal that does not end, or is followed by what
cannot follow it, spoils the rest of the text.
-/

set_option autoImplicit false

namespace SqlBinding.Sqlite

open Numeric

/-- A token of SQL text. -/
inductive Token
  | word (w : String)
  | literal (c : Cell)
  | symbol (c : Char)
  /-- Text that cannot be read. -/
  | broken
  deriving DecidableEq, Repr

namespace Token

/-- Whether a character stands between tokens. -/
def isSpace (c : Char) : Bool := c == ' ' || c == '\t' || c == '\n' || c == '\x0c' || c == '\r'

/-- Whether a character may begin a word. -/
def isWordStart (c : Char) : Bool := c.isAlpha || c == '_'

/-- Whether a character may stand inside a word. -/
def isWordChar (c : Char) : Bool := c.isAlphanum || c == '_'

/-- Reads a text literal from behind its opening quote. -/
def readText : List Char → Option (List Char × List Char)
  | [] => none
  | '\'' :: '\'' :: rest => (readText rest).map fun (cs, tail) => ('\'' :: cs, tail)
  | '\'' :: rest => some ([], rest)
  | c :: rest =>
    if c = '\x00' then none else (readText rest).map fun (cs, tail) => (c :: cs, tail)

/-- What is left behind a quoted text is not longer than the text. -/
theorem readText_length {cs text rest : List Char} (h : readText cs = some (text, rest)) :
    rest.length ≤ cs.length := by
  fun_induction readText cs generalizing text with
  | case1 => simp at h
  | case2 after ih =>
    obtain ⟨⟨t, r⟩, hp, heq⟩ := Option.map_eq_some_iff.1 h
    simp only [Prod.mk.injEq] at heq
    obtain ⟨-, rfl⟩ := heq
    have := ih hp
    simp only [List.length_cons]
    omega
  | case3 => simp_all
  | case4 => simp at h
  | case5 c after _ _ _ ih =>
    obtain ⟨⟨t, r⟩, hp, heq⟩ := Option.map_eq_some_iff.1 h
    simp only [Prod.mk.injEq] at heq
    obtain ⟨-, rfl⟩ := heq
    have := ih hp
    simp only [List.length_cons]
    omega

/-- Whether a character belongs to the digits of a number or to their point. -/
def isDigitOrPoint (c : Char) : Bool := c.isDigit || c == '.'

/-- Reads a number from its first digit on. A number is not followed by a word. -/
def readNumber (negative : Bool) (first : Char) (cs : List Char) : Token × List Char :=
  match Cell.ofDigits? negative (first :: cs.takeWhile isDigitOrPoint),
      cs.dropWhile isDigitOrPoint with
  | some c, rest => if rest.head?.any isWordChar then (broken, []) else (literal c, rest)
  | none, _ => (broken, [])

/-- Reads a byte string from behind its opening quote. -/
def readBytes (cs : List Char) : Token × List Char :=
  match readText cs with
  | none => (broken, [])
  | some (digits, rest) =>
    match Text.Hex.decode (Text.Utf8.encode (String.ofList digits)) with
    | .ok bytes => (literal (.blob bytes), rest)
    | .error _ => (broken, [])

/-- Reads a word from behind its first character. -/
def readWord (first : Char) (cs : List Char) : Token × List Char :=
  (word (String.ofList (first :: cs.takeWhile isWordChar)), cs.dropWhile isWordChar)

/-- Reads the token that begins with the given character. -/
def next (c : Char) (cs : List Char) : Token × List Char :=
  if c = '\'' then
    match readText cs with
    | some (text, rest) => (literal (.text (String.ofList text)), rest)
    | none => (broken, [])
  else if c.isDigit then readNumber false c cs
  else if isWordStart c then
    match cs with
    | '\'' :: rest => if c = 'X' ∨ c = 'x' then readBytes rest else readWord c cs
    | _ => readWord c cs
  else
    match cs with
    | d :: rest => if c = '-' ∧ d.isDigit then readNumber true d rest else (symbol c, cs)
    | [] => (symbol c, [])

/-- What is left behind a number is not longer than the text. -/
theorem readNumber_length (negative : Bool) (first : Char) (cs : List Char) :
    (readNumber negative first cs).2.length ≤ cs.length := by
  unfold readNumber
  split
  · split
    · simp
    · exact (List.dropWhile_suffix _).length_le
  · simp

/-- What is left behind a byte string is not longer than the text. -/
theorem readBytes_length (cs : List Char) : (readBytes cs).2.length ≤ cs.length := by
  unfold readBytes
  split
  · simp
  · rename_i h
    have := readText_length h
    split
    · exact this
    · simp

/-- What is left behind a word is not longer than the text. -/
theorem readWord_length (first : Char) (cs : List Char) :
    (readWord first cs).2.length ≤ cs.length :=
  (List.dropWhile_suffix _).length_le

/-- What is left behind a token is not longer than the text behind its first character. -/
theorem next_length (c : Char) (cs : List Char) : (next c cs).2.length ≤ cs.length := by
  unfold next
  split
  · split
    · rename_i h
      exact readText_length h
    · simp
  · split
    · exact readNumber_length false c cs
    · split
      · split
        · split
          · exact Nat.le_succ_of_le (readBytes_length _)
          · exact readWord_length c _
        · exact readWord_length c cs
      · split
        · split
          · exact Nat.le_succ_of_le (readNumber_length true _ _)
          · exact Nat.le_refl _
        · exact Nat.le_refl _

/-- Cuts SQL text into tokens. -/
def lex : List Char → List Token
  | [] => []
  | c :: cs =>
    if isSpace c then lex cs
    else (next c cs).1 :: lex (next c cs).2
termination_by cs => cs.length
decreasing_by
  · simp
  · have := next_length c cs
    simp only [List.length_cons]
    omega

/-- Cuts tokens at semicolons. -/
def segments : List Token → List (List Token)
  | [] => [[]]
  | t :: ts =>
    if t = symbol ';' then [] :: segments ts
    else
      match segments ts with
      | [] => [[t]]
      | s :: ss => (t :: s) :: ss

/-- The statements of SQL text, empty ones left out. -/
def statements (sql : List Char) : List (List Token) :=
  (segments (lex sql)).filter fun s => !s.isEmpty

end Token

end SqlBinding.Sqlite
