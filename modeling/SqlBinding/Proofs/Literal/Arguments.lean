import Mathlib.Data.List.Forall2
import SqlBinding.Literal
import SqlBinding.Proofs.Literal.Quoting

/-!
# Literals of arguments as a server reads them

A reader that stands outside literals is outside them again behind the literal of any argument, has
met nothing but a few harmless characters outside them, and has taken the literals for exactly the
text that the argument holds. Numbers and truth values are read character by character, texts by
`Reader.reads_quote`; for values with a validity flag and for lists the proof is an induction over
arguments.
-/

set_option autoImplicit false

namespace SqlBinding

open Numeric ReadingState Text

mutual

/-- The text that an argument puts into string literals; that of a list is the text of its elements
one after the other. -/
def Argument.quoted (d : Dialect) : Argument → List Char
  | .text s => s.toList
  | .timestamp t => t.wall.literalText
  | .array a => a.text.toOption.getD []
  | .bool b => if d = .postgres then (if b then ['t'] else ['f']) else []
  | .bytes b =>
    match d with
    | .legacy => []
    | .mySql | .sqlite => Hex.encode b
    | .postgres => '\\' :: 'x' :: Hex.encode b
  | .nullable inner valid =>
    if Argument.isPresent d.nullablePolicy inner valid then inner.quoted d else []
  | .list items => Argument.quotedAll d items
  | .null | .int _ | .uint _ | .float32 _ | .float64 _ => []

/-- The text that arguments put into string literals. -/
def Argument.quotedAll (d : Dialect) : List Argument → List Char
  | [] => []
  | item :: items => item.quoted d ++ Argument.quotedAll d items

end

/-- The hexadecimal digits that byte strings are written in. -/
def hexDigits : List Char :=
  ['0', '1', '2', '3', '4', '5', '6', '7', '8', '9', 'a', 'b', 'c', 'd', 'e', 'f']

/-- Bytes are written in hexadecimal digits only. -/
theorem mem_hexDigits_of_mem_encode {b : List UInt8} {c : Char} (h : c ∈ Hex.encode b) :
    c ∈ hexDigits := by
  have hdigit : ∀ n < 16, Hex.digit n ∈ hexDigits := by decide
  obtain ⟨x, -, hx⟩ := List.mem_flatMap.1 h
  have hlt := x.toNat_lt
  simp only [Hex.ofByte, List.mem_cons, List.not_mem_nil, or_false] at hx
  rcases hx with rfl | rfl
  · exact hdigit _ (by omega)
  · exact hdigit _ (by omega)

namespace Reader

variable {R : Reader}

variable (R)

/-- A reader outside literals is outside them again behind `text`, has met only harmless characters
outside them, and has taken the literals for `contents`. -/
def Harmless (text contents : List Char) : Prop :=
  ∃ t bare, R.Reads start text t bare contents ∧ t.settled ∧ ∀ c ∈ bare, R.dialect.leavesBare c

variable {R}

namespace Harmless

/-- Text between the quotes of the dialect is taken for itself. -/
theorem quote (cs : List Char) : R.Harmless (R.dialect.quote cs) cs := by
  obtain ⟨e, bare, h, hbare⟩ := reads_quote R cs
  exact ⟨R.closed e, bare, h, settled_closed e, hbare⟩

/-- Text without quotes that may stand outside literals holds none. -/
theorem plain {cs : List Char} (hquote : R.quoteMark ∉ cs)
    (hbare : ∀ c ∈ cs, R.dialect.leavesBare c) : R.Harmless cs [] := by
  obtain ⟨last, h⟩ := Reads.plain .separate hquote
  exact ⟨outside last, cs, h, rfl, hbare⟩

/-- The text of a number holds no literal. -/
theorem numeral {cs : List Char} (h : ∀ c ∈ cs, isNumeral c) : R.Harmless cs [] := by
  refine plain (fun hq => ?_) fun c hc => by simp [Dialect.leavesBare, h c hc]
  have hmark := h _ hq
  unfold quoteMark at hmark
  cases hd : R.dialect <;> simp [hd, isNumeral] at hmark

/-- Harmless texts stay so on both sides of a comma. -/
theorem separated {a b contentsA contentsB : List Char} (ha : R.Harmless a contentsA)
    (hb : R.Harmless b contentsB) : R.Harmless (a ++ ',' :: b) (contentsA ++ contentsB) := by
  obtain ⟨t, bareA, ha, ht, hbareA⟩ := ha
  obtain ⟨u, bareB, hb, hu, hbareB⟩ := hb
  have hcomma : ',' ≠ R.quoteMark := ne_quoteMark (by decide) (by decide)
  obtain ⟨trail, hc, htrail⟩ := Reads.between ht hcomma
  obtain rfl : trail = .separate := htrail rfl
  refine ⟨u, bareA ++ ',' :: bareB, by simpa using ha.append (hc.append hb), hu, ?_⟩
  intro c hc
  rcases List.mem_append.1 hc with hc | hc
  · exact hbareA c hc
  · rcases List.mem_cons.1 hc with rfl | hc
    · simp [Dialect.leavesBare]
    · exact hbareB c hc

/-- Harmless texts stay so with commas between them. -/
theorem intercalated {texts contents : List (List Char)} (hne : texts ≠ [])
    (h : List.Forall₂ R.Harmless texts contents) :
    R.Harmless (List.intercalate [','] texts) contents.flatten := by
  induction h with
  | nil => exact absurd rfl hne
  | @cons a k as ks ha has ih =>
    cases has with
    | nil => simpa [List.intercalate] using ha
    | @cons b l bs ls hb hbs =>
      have htail := ih (by simp)
      simpa [List.intercalate] using ha.separated htail

/-- Harmless texts stay so as a list in parentheses. -/
theorem parenthesized {texts contents : List (List Char)} (hne : texts ≠ [])
    (h : List.Forall₂ R.Harmless texts contents) :
    R.Harmless (Argument.parenthesized texts) contents.flatten := by
  obtain ⟨t, bare, hr, ht, hbare⟩ := intercalated hne h
  have hopen : '(' ≠ R.quoteMark := ne_quoteMark (by decide) (by decide)
  have hclose : ')' ≠ R.quoteMark := ne_quoteMark (by decide) (by decide)
  obtain ⟨trail, ho, htrail⟩ := Reads.between (R := R) (s := start) rfl hopen
  obtain rfl : trail = .separate := htrail rfl
  obtain ⟨last, hc, -⟩ := Reads.between ht hclose
  refine ⟨outside last, '(' :: bare ++ [')'], ?_, rfl, ?_⟩
  · simpa [Argument.parenthesized] using (ho.append hr).append hc
  · intro c hc
    simp only [List.cons_append, List.mem_cons, List.mem_append, List.not_mem_nil, or_false] at hc
    rcases hc with rfl | hc | rfl
    · simp [Dialect.leavesBare]
    · exact hbare c hc
    · simp [Dialect.leavesBare]

/-- A truth value is harmless in every dialect, quoted or not. -/
theorem bool (b : Bool) :
    R.Harmless (R.dialect.boolLiteral b) (Argument.quoted R.dialect (.bool b)) := by
  cases hd : R.dialect with
  | postgres =>
    have h := quote (R := R) (if b then ['t'] else ['f'])
    cases b <;>
      simpa [hd, Dialect.quote, Dialect.boolLiteral, Argument.quoted, Dialect.doubled] using h
  | legacy | mySql | sqlite =>
    have h : R.Harmless (if b then ['1'] else ['0']) [] :=
      numeral fun c hc => by cases b <;> simp_all [isNumeral]
    simpa [Dialect.boolLiteral, Argument.quoted] using h

/-- A byte string is taken for the digits it is written in, where it is quoted. -/
theorem bytes (b : List UInt8) :
    R.Harmless (R.dialect.bytesLiteral b) (Argument.quoted R.dialect (.bytes b)) := by
  have hhex {c : Char} (hc : c ∈ Hex.encode b) : c ≠ '\'' ∧ c ≠ '\\' := by
    have hmem := mem_hexDigits_of_mem_encode hc
    constructor <;> rintro rfl <;> exact absurd hmem (by decide)
  -- `X` in front of digits between the quotes of the dialect is what MySQL and SQLite have.
  have hmarked (hq : R.quoteMark = '\'') (hbare : R.dialect.leavesBare 'X') :
      R.Harmless ('X' :: '\'' :: Hex.encode b ++ ['\'']) (Hex.encode b) := by
    obtain ⟨trail, hX, -⟩ := Reads.between (R := R) (s := start) (c := 'X') rfl (by simp [hq])
    have hdigits := Reads.enclosed (R := R) trail (Reads.verbatim fun c hc =>
      ⟨hq ▸ (hhex hc).1, fun h => (hhex hc).2 h.2⟩)
    exact ⟨_, ['X'], by simpa [hq] using hX.append hdigits, settled_closed _, by simpa using hbare⟩
  cases hd : R.dialect with
  | legacy =>
    -- Its single quotes are no quotes of the dialect, so all of the literal stands outside.
    have hsub : Dialect.legacy.bytesLiteral b ⊆ 'X' :: '\'' :: hexDigits := by
      intro c hc
      simp only [Dialect.bytesLiteral, List.cons_append, List.mem_cons, List.mem_append,
        List.not_mem_nil, or_false] at hc ⊢
      rcases hc with hX | hquote | hc | hquote
      · exact .inl hX
      · exact .inr (.inl hquote)
      · exact .inr (.inr (mem_hexDigits_of_mem_encode hc))
      · exact .inr (.inl hquote)
    have hq : R.quoteMark = '"' := by simp [quoteMark, hd]
    have hbare : ∀ c ∈ 'X' :: '\'' :: hexDigits, Dialect.legacy.leavesBare c :=
      List.all_eq_true.1 (by decide)
    refine plain (fun h => ?_) fun c hc => by simpa [hd] using hbare c (hsub hc)
    rw [hq] at h
    exact absurd (hsub h) (by decide)
  | postgres =>
    have hq : R.quoteMark = '\'' := by simp [quoteMark, hd]
    have he : R.escapes .separate = false := by simp [escapes, hd]
    have hquote {c : Char} (hc : c ∈ '\\' :: 'x' :: Hex.encode b) : c ≠ R.quoteMark := by
      rw [hq]
      rcases List.mem_cons.1 hc with rfl | hc
      · decide
      · rcases List.mem_cons.1 hc with rfl | hc
        · decide
        · exact (hhex hc).1
    have h := Reads.enclosed .separate (Reads.verbatim fun c hc => ⟨hquote hc, by simp [he]⟩)
    refine ⟨R.closed (R.escapes .separate), [], ?_, settled_closed _, by simp⟩
    simpa [hq, start, Dialect.bytesLiteral, Argument.quoted] using h
  | mySql =>
    simpa [Dialect.bytesLiteral, Argument.quoted] using
      hmarked (by simp [quoteMark, hd]) (by simp [hd, Dialect.leavesBare])
  | sqlite =>
    simpa [Dialect.bytesLiteral, Argument.quoted] using
      hmarked (by simp [quoteMark, hd]) (by simp [hd, Dialect.leavesBare])

end Harmless

/-- The elements of a list put their texts into literals one after the other. -/
theorem quotedAll_eq_flatten (d : Dialect) (items : List Argument) :
    Argument.quotedAll d items = (items.map (Argument.quoted d)).flatten := by
  induction items with
  | nil => rfl
  | cons item items ih => simp [Argument.quotedAll, ih]

/-- A float that is written is a number outside literals. -/
theorem harmless_floatLiteral {F : FloatFormat} {x : Binary F} {text : List Char}
    (h : Argument.floatLiteral x = .ok text) : R.Harmless text [] := by
  unfold Argument.floatLiteral at h
  split at h
  · cases h
    exact .numeral fun c hc => Binary.isNumeral_of_mem_display ‹_› hc
  · cases h

/-- The word for NULL holds no literal. -/
theorem harmless_nullLiteral : R.Harmless Argument.nullLiteral [] := by
  refine .plain (fun h => ?_) fun c hc => ?_
  · unfold quoteMark at h
    cases hd : R.dialect <;> simp [hd, Argument.nullLiteral] at h
  · have hletter : ['(', ',', ')', 'N', 'U', 'L'].contains c := by
      simp only [Argument.nullLiteral, List.mem_cons, List.not_mem_nil, or_false] at hc
      rcases hc with rfl | rfl | rfl | rfl <;> decide
    simp only [Dialect.leavesBare, hletter, Bool.or_true, Bool.true_or]

mutual

/-- The literal of any argument. -/
theorem harmless_literal : ∀ (a : Argument) {text : List Char},
    a.literal R.dialect = .ok text → R.Harmless text (a.quoted R.dialect)
  | .null, _, h => by
    cases h
    exact harmless_nullLiteral
  | .bool b, _, h => by
    cases h
    exact .bool b
  | .int n, _, h => by
    cases h
    exact .numeral fun c hc => Decimal.isNumeral_of_mem_ofInt hc
  | .uint n, _, h => by
    cases h
    exact .numeral fun c hc => Decimal.isNumeral_of_mem_ofInt hc
  | .float32 x, _, h => harmless_floatLiteral h
  | .float64 x, _, h => harmless_floatLiteral h
  | .text s, _, h => by
    cases h
    exact .quote s.toList
  | .bytes b, _, h => by
    cases h
    exact .bytes b
  | .timestamp t, _, h => by
    cases h
    exact .quote t.wall.literalText
  | .nullable inner valid, text, h => by
    unfold Argument.literal at h
    unfold Argument.quoted
    split at h
    · rw [if_pos ‹_›]
      exact harmless_literal inner h
    · rw [if_neg ‹_›]
      cases h
      exact harmless_nullLiteral
  | .list [], _, h => by cases h
  | .list (item :: items), text, h => by
    unfold Argument.literal at h
    unfold Argument.quoted
    cases ht : Argument.literals R.dialect none (item :: items) with
    | error e => simp [ht, Except.map] at h
    | ok texts =>
      simp only [ht, Except.map, Except.ok.injEq] at h
      have hall := harmless_literals (item :: items) ht
      have hne : texts ≠ [] := by
        rintro rfl
        cases hall
      rw [← h, quotedAll_eq_flatten]
      exact .parenthesized hne hall
  | .array a, text, h => by
    unfold Argument.literal at h
    unfold Argument.quoted
    split at h
    · cases h
      simpa [Except.toOption, *] using Harmless.quote (R := R) _
    · cases h

/-- The elements of a list are harmless one by one. -/
theorem harmless_literals : ∀ (items : List Argument) {sofar : Option Argument.Kind}
    {texts : List (List Char)}, Argument.literals R.dialect sofar items = .ok texts →
      List.Forall₂ R.Harmless texts (items.map (Argument.quoted R.dialect))
  | [], _, _, h => by
    cases h
    exact .nil
  | item :: items, sofar, texts, h => by
    unfold Argument.literals at h
    split at h
    · cases h
    · split at h
      · cases h
      · rename_i kind _ _ text htext
        cases ht : Argument.literals R.dialect kind items with
        | error e => simp [ht, Except.map] at h
        | ok rest =>
          simp only [ht, Except.map, Except.ok.injEq] at h
          rw [← h]
          exact .cons (harmless_literal item htext) (harmless_literals items ht)

end

end Reader

end SqlBinding
