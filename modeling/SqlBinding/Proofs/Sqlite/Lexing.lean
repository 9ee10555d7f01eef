import Mathlib.Data.List.Forall2
import SqlBinding.Proofs.Literal.Arguments
import SqlBinding.Proofs.Text.Hex
import SqlBinding.Proofs.Text.Runs
import SqlBinding.Sqlite.Token

/-!
# Literals as tokens

The literals that arguments have in statements for SQLite are tokens that spell the values of the
arguments: what a text contains cannot break out of its literal. Where a literal ends depends on
what stands behind it (`Ends`), which may be anything that the literal could not go on with.
-/

set_option autoImplicit false

namespace SqlBinding.Sqlite

open Numeric
open Text (span_of_head)

/-! ### Cells of numbers -/

namespace Cell

/-- A run of digits spells a whole number. -/
theorem ofDigits?_ofNat (negative : Bool) (n : Nat) :
    ofDigits? negative (Decimal.ofNat n) = some (ofInt (if negative then -(n : Int) else n)) := by
  have hdigits : ∀ d ∈ Decimal.ofNat n, d.isDigit := fun d hd => Decimal.isDigit_of_mem_ofNat hd
  have hread : readDecimal (Decimal.ofNat n) = some (n, 0) := by
    obtain ⟨c, cs, hcons, -⟩ := Decimal.exists_cons_ofNat n
    have hvalue : Decimal.value (Decimal.ofNat n) = n := Nat.ofDigitChars_ten_toDigits
    have hne : (Decimal.ofNat n).isEmpty = false := by
      rw [hcons]
      rfl
    have hend : ∀ c ∈ ([] : List Char).head?, c.isDigit = false := nofun
    obtain ⟨htake, hdrop⟩ := span_of_head hdigits hend
    rw [List.append_nil] at htake hdrop
    simp [readDecimal, htake, hdrop, hne, readExponent, hvalue]
  rw [ofDigits?, hread]
  exact congrArg some (if_pos (List.all_eq_true.2 hdigits))

/-- A number in the range of a column is an integer literal. -/
theorem ofInt_val (n : I64) : ofInt n.val = .int n := by
  rw [ofInt, IntKind.ofInt?_eq_some_iff.2 rfl]

end Cell

namespace Token

/-- A text begins with nothing that a word or a literal in front of it could go on with. -/
def Ends (rest : List Char) : Prop :=
  ∀ c ∈ rest.head?, isWordChar c = false ∧ c ≠ '.' ∧ c ≠ '\''

/-- A text is these tokens, whatever stands behind it. -/
def Cuts (text : List Char) (tokens : List Token) : Prop :=
  ∀ rest, Ends rest → lex (text ++ rest) = tokens ++ lex rest

/-- The token of a value. -/
def ofCell : Cell → Token
  | .null => .word "NULL"
  | c => .literal c

/-- A text is the literal of a value. -/
def Spells (text : List Char) (c : Cell) : Prop := Cuts text [ofCell c]

/-- The first token of a text that begins without a space is cut off it. -/
theorem lex_cons {c : Char} {cs rest : List Char} {t : Token} (hspace : isSpace c = false)
    (h : next c cs = (t, rest)) : lex (c :: cs) = t :: lex rest := by
  rw [lex, hspace, h]
  rfl

/-- A space in front of a text belongs to no token. -/
theorem lex_blank (cs : List Char) : lex (' ' :: cs) = lex cs := by
  rw [lex]
  rfl

/-- Parentheses, commas and semicolons are tokens of their own, whatever follows. -/
theorem lex_symbol {c : Char} (hc : c ∈ ['(', ')', ',', ';']) (cs : List Char) :
    lex (c :: cs) = symbol c :: lex cs := by
  have hnext : isSpace c = false ∧ next c cs = (symbol c, cs) := by
    simp only [List.mem_cons, List.not_mem_nil, or_false] at hc
    rcases hc with rfl | rfl | rfl | rfl <;> exact ⟨rfl, by cases cs <;> rfl⟩
  exact lex_cons hnext.1 hnext.2

/-- A word with a blank behind it is a token of its own. -/
theorem lex_keyword (first : Char) (letters : List Char) (hspace : isSpace first = false)
    (hnext : ∀ cs, next first (letters ++ ' ' :: cs) =
      (word (String.ofList (first :: letters)), ' ' :: cs)) (cs : List Char) :
    lex (first :: (letters ++ ' ' :: cs)) = word (String.ofList (first :: letters)) :: lex cs := by
  rw [lex_cons hspace (hnext cs), lex_blank]

/-- A name of one letter and the symbol behind it are two tokens. -/
theorem lex_name (name mark : Char) (hspace : isSpace name = false)
    (hmark : mark ∈ ['(', ')', ',', ';'])
    (hnext : ∀ cs, next name (mark :: cs) = (word (String.ofList [name]), mark :: cs))
    (cs : List Char) :
    lex (name :: mark :: ' ' :: cs) = word (String.ofList [name]) :: symbol mark :: lex cs := by
  rw [lex_cons hspace (hnext _), lex_symbol hmark, lex_blank]

/-- The word for NULL is the literal of the missing value. -/
theorem spells_null : Spells Argument.nullLiteral .null := by
  intro rest hrest
  have hhead : ∀ c ∈ rest.head?, isWordChar c = false := fun c hc => (hrest c hc).1
  have hletters : ∀ c ∈ ['U', 'L', 'L'], isWordChar c := List.all_eq_true.1 rfl
  obtain ⟨htake, hdrop⟩ := span_of_head hletters hhead
  have hnext : next 'N' (['U', 'L', 'L'] ++ rest) = (ofCell .null, rest) := by
    show readWord 'N' (['U', 'L', 'L'] ++ rest) = _
    rw [readWord, htake, hdrop]
    rfl
  exact lex_cons rfl hnext

/-! ### Numbers -/

/-- What ends a word and is no point ends a number. -/
theorem not_isDigitOrPoint {c : Char} (hword : isWordChar c = false) (hpoint : c ≠ '.') :
    isDigitOrPoint c = false := by
  have hdigit : c.isDigit = false := by
    simp only [isWordChar, Char.isAlphanum, Bool.or_eq_false_iff] at hword
    exact hword.1.2
  simp [isDigitOrPoint, hdigit, hpoint]

/-- The digits of a number are read as the number, with its sign. -/
theorem readNumber_ofNat (negative : Bool) {n : Nat} {c : Char} {cs rest : List Char}
    (hn : Decimal.ofNat n = c :: cs) (hrest : Ends rest) :
    readNumber negative c (cs ++ rest) =
      (literal (.ofInt (if negative then -(n : Int) else n)), rest) := by
  have hdigits : ∀ d ∈ cs, isDigitOrPoint d := fun d hd => by
    rw [isDigitOrPoint, Decimal.isDigit_of_mem_ofNat (n := n) (by simp [hn, hd]), Bool.true_or]
  have hhead : ∀ d ∈ rest.head?, isDigitOrPoint d = false := fun d hd =>
    not_isDigitOrPoint (hrest d hd).1 (hrest d hd).2.1
  have hword : rest.head?.any isWordChar = false := by
    cases rest with
    | nil => rfl
    | cons d rest => exact (hrest d rfl).1
  obtain ⟨htake, hdrop⟩ := span_of_head hdigits hhead
  rw [readNumber, htake, hdrop, ← hn, Cell.ofDigits?_ofNat]
  simp [hword]

/-- The text of an integer is its literal. -/
theorem spells_int (n : I64) : Spells n.text (.int n) := by
  intro rest hrest
  obtain ⟨c, cs, hcons, hdigit⟩ := Decimal.exists_cons_ofNat n.val.natAbs
  have hnumber (negative : Bool)
      (hsign : (if negative then -(n.val.natAbs : Int) else n.val.natAbs) = n.val) :
      readNumber negative c (cs ++ rest) = (ofCell (.int n), rest) := by
    rw [readNumber_ofNat negative hcons hrest, hsign, Cell.ofInt_val]
    rfl
  by_cases hneg : n.val < 0
  · have hnext : next '-' (c :: cs ++ rest) = (ofCell (.int n), rest) := by
      have hsign : -(n.val.natAbs : Int) = n.val := by omega
      rw [← hnumber true hsign]
      exact if_pos (c := '-' = '-' ∧ c.isDigit) ⟨rfl, hdigit⟩
    rw [IntKind.Val.text, Decimal.ofInt, if_pos hneg, hcons]
    exact lex_cons rfl hnext
  · have hquote : c ≠ '\'' := by
      rintro rfl
      cases hdigit
    have hspace : isSpace c = false := by
      have hnot (d : Char) (hd : d.isDigit = false) : c ≠ d := by
        rintro rfl
        rw [hdigit] at hd
        cases hd
      simp [isSpace, hnot]
    have hnext : next c (cs ++ rest) = (ofCell (.int n), rest) := by
      have hsign : (n.val.natAbs : Int) = n.val := by omega
      rw [← hnumber false hsign]
      unfold next
      rw [if_neg hquote, if_pos hdigit]
    rw [IntKind.Val.text, Decimal.ofInt, if_neg hneg, hcons]
    exact lex_cons hspace hnext

/-! ### Texts and byte strings -/

/-- A text in which every quote is written twice is read up to the quote that ends it. -/
theorem readText_doubled {cs rest : List Char} (hcs : '\x00' ∉ cs) (hrest : Ends rest) :
    readText (Dialect.doubled cs ++ '\'' :: rest) = some (cs, rest) := by
  induction cs with
  | nil =>
    cases rest with
    | nil => rfl
    | cons c rest =>
      have hquote := (hrest c rfl).2.2
      simp [Dialect.doubled, readText, hquote]
  | cons c cs ih =>
    obtain ⟨hc, hcs⟩ := not_or.1 (mt List.mem_cons.2 hcs)
    have hdoubled : Dialect.doubled (c :: cs) =
        (if c = '\'' then ['\'', '\''] else [c]) ++ Dialect.doubled cs := rfl
    by_cases hquote : c = '\''
    · rw [hdoubled, if_pos hquote, hquote]
      simp [readText, ih hcs]
    · rw [hdoubled, if_neg hquote]
      simp [readText, hquote, Ne.symm hc, ih hcs]

/-- A quoted text is its literal, unless it holds a null character. -/
theorem spells_text {s : String} (hs : '\x00' ∉ s.toList) :
    Spells (Dialect.sqlite.quote s.toList) (.text s) := by
  intro rest hrest
  have hnext : next '\'' (Dialect.doubled s.toList ++ '\'' :: rest) =
      (ofCell (.text s), rest) := by
    unfold next
    rw [if_pos rfl, readText_doubled hs hrest]
    simp [ofCell]
  have happend : Dialect.sqlite.quote s.toList ++ rest =
      '\'' :: (Dialect.doubled s.toList ++ '\'' :: rest) := by
    simp [Dialect.quote]
  rw [happend]
  exact lex_cons rfl hnext

/-- Marked and quoted digits are the literal of a byte string. -/
theorem spells_bytes (b : List UInt8) : Spells (Dialect.sqlite.bytesLiteral b) (.blob b) := by
  intro rest hrest
  have hnot (c : Char) (hc : c ∉ hexDigits) : c ∉ Text.Hex.encode b := fun hmem =>
    hc (mem_hexDigits_of_mem_encode hmem)
  have hread : readText (Text.Hex.encode b ++ '\'' :: rest) = some (Text.Hex.encode b, rest) := by
    have hdoubled := readText_doubled (hnot '\x00' (by decide)) hrest
    rwa [Dialect.doubled_eq_self (hnot '\'' (by decide))] at hdoubled
  have hnext : next 'X' ('\'' :: (Text.Hex.encode b ++ '\'' :: rest)) =
      (ofCell (.blob b), rest) := by
    show readBytes (Text.Hex.encode b ++ '\'' :: rest) = _
    rw [readBytes, hread]
    simp only [Text.Utf8.encode_of_lt fun c hc => Text.Hex.lt_of_mem_encode hc,
      Text.Hex.decode_encode]
    rfl
  have happend : Dialect.sqlite.bytesLiteral b ++ rest =
      'X' :: '\'' :: (Text.Hex.encode b ++ '\'' :: rest) := by
    simp [Dialect.bytesLiteral]
  rw [happend]
  exact lex_cons rfl hnext

/-! ### Lists of literals -/

/-- Tokens with commas between them. -/
def listed (tokens : List (List Token)) : List Token := List.intercalate [symbol ','] tokens

/-- A separator is a comma and blanks. -/
def Separates (separator : List Char) : Prop :=
  ∀ rest, lex (separator ++ rest) = symbol ',' :: lex rest ∧ Ends (separator ++ rest)

/-- A comma separates literals. -/
theorem separates_comma : Separates [','] :=
  fun rest => ⟨lex_symbol (by simp) rest, by simp [Ends]; decide⟩

/-- A comma and a space separate literals. -/
theorem separates_comma_blank : Separates [',', ' '] := by
  refine fun rest => ⟨?_, by simp [Ends]; decide⟩
  rw [List.cons_append, lex_symbol (by simp), List.singleton_append, lex_blank]

/-- Texts with separators between them are their tokens with commas between them. -/
theorem cuts_intercalate {separator : List Char} (hseparator : Separates separator)
    {texts : List (List Char)} {tokens : List (List Token)} (h : List.Forall₂ Cuts texts tokens) :
    Cuts (List.intercalate separator texts) (listed tokens) := by
  intro rest hrest
  induction h with
  | nil => rfl
  | @cons text token texts tokens htext htexts ih =>
    cases htexts with
    | nil => simpa [listed] using htext rest hrest
    | @cons second tokens₂ texts tokens hsecond htexts =>
      -- Behind this text stands a separator, which ends it whatever the next text begins with.
      obtain ⟨hlex, hends⟩ := hseparator (List.intercalate separator (second :: texts) ++ rest)
      rw [listed, List.intercalate_cons_cons, List.intercalate_cons_cons, List.append_assoc,
        List.append_assoc, htext _ hends, hlex, ih]
      simp [listed]

/-- The text of a row of values: literals in parentheses. -/
def rowText (literals : List (List Char)) : List Char :=
  '(' :: List.intercalate [',', ' '] literals ++ [')']

/-- The tokens of a row of values. -/
def rowTokens (cells : List Cell) : List Token :=
  symbol '(' :: listed (cells.map fun c => [ofCell c]) ++ [symbol ')']

/-- Literals in parentheses are the tokens of their row. -/
theorem cuts_rowText {literals : List (List Char)} {cells : List Cell}
    (h : List.Forall₂ Spells literals cells) : Cuts (rowText literals) (rowTokens cells) := by
  intro rest _
  have hcuts : List.Forall₂ Cuts literals (cells.map fun c => [ofCell c]) :=
    List.forall₂_map_right_iff.2 h
  have hinside := cuts_intercalate separates_comma_blank hcuts (')' :: rest)
    (by simp [Ends]; decide)
  have happend : rowText literals ++ rest =
      '(' :: (List.intercalate [',', ' '] literals ++ ')' :: rest) := by
    simp [rowText]
  rw [happend, lex_symbol (by simp), hinside, lex_symbol (by simp)]
  simp [rowTokens]

/-! ### Separate statements -/

/-- What is listed is a comma or belongs to one of the items. -/
theorem mem_listed {tokens : List (List Token)} {t : Token} (h : t ∈ listed tokens) :
    t = symbol ',' ∨ ∃ item ∈ tokens, t ∈ item := by
  induction tokens with
  | nil => cases h
  | cons item tokens ih =>
    cases tokens with
    | nil => exact .inr ⟨item, by simp, by simpa [listed] using h⟩
    | cons second tokens =>
      rw [listed, List.intercalate_cons_cons, List.append_assoc, List.mem_append] at h
      rcases h with h | h
      · exact .inr ⟨item, by simp, h⟩
      · rcases List.mem_cons.1 h with h | h
        · exact .inl h
        · rcases ih h with h | ⟨other, hother, h⟩
          · exact .inl h
          · exact .inr ⟨other, List.mem_cons_of_mem _ hother, h⟩

/-- No value ends the statement that it stands in. -/
theorem not_mem_rowTokens (cells : List Cell) : symbol ';' ∉ rowTokens cells := by
  intro h
  rw [rowTokens, List.cons_append, List.mem_cons, List.mem_append, List.mem_singleton] at h
  rcases h with h | h | h
  · cases h
  · rcases mem_listed h with h | ⟨item, hitem, h⟩
    · cases h
    · obtain ⟨c, -, rfl⟩ := List.mem_map.1 hitem
      cases c <;> cases List.mem_singleton.1 h
  · cases h

/-- Tokens without a semicolon are one statement. -/
theorem segments_of_not_mem {tokens : List Token} (h : symbol ';' ∉ tokens) :
    segments tokens = [tokens] := by
  induction tokens with
  | nil => rfl
  | cons t tokens ih =>
    obtain ⟨ht, htokens⟩ := not_or.1 (mt List.mem_cons.2 h)
    rw [segments, if_neg (Ne.symm ht), ih htokens]

/-- A semicolon ends the statement in front of it. -/
theorem segments_append {tokens : List Token} (h : symbol ';' ∉ tokens) (more : List Token) :
    segments (tokens ++ symbol ';' :: more) = tokens :: segments more := by
  induction tokens with
  | nil => rfl
  | cons t tokens ih =>
    obtain ⟨ht, htokens⟩ := not_or.1 (mt List.mem_cons.2 h)
    rw [List.cons_append, segments, if_neg (Ne.symm ht), ih htokens]

/-- A statement may be terminated. -/
theorem statements_eq {sql : List Char} {tokens : List Token} (h : symbol ';' ∉ tokens)
    (hne : tokens ≠ []) (hlex : lex sql = tokens ∨ lex sql = tokens ++ [symbol ';']) :
    statements sql = [tokens] := by
  have hkept : (!tokens.isEmpty) = true := by simpa using hne
  rw [statements]
  rcases hlex with hlex | hlex
  · rw [hlex, segments_of_not_mem h]
    simp [hkept]
  · rw [hlex, segments_append h]
    simp [hkept, segments]

end Token

end SqlBinding.Sqlite
