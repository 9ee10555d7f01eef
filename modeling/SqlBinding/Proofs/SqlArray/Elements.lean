import SqlBinding.Proofs.Numeric.DecimalText
import SqlBinding.Proofs.SqlArray.Language
import SqlBinding.Proofs.Text.Hex
import SqlBinding.SqlArray.Nested

/-!
# Elements read back

A value of an integer, text, truth-value or byte-string type is what its element text is read as,
and so is an optional one. What is written for an element in array text is one there: it is quoted
wherever it would not be read as itself.
-/

set_option autoImplicit false

namespace SqlBinding.SqlArray

open Numeric Text

/-- Whether a codec reads a value back from what it writes for it. -/
def ElementCodec.ReadsBack {α : Type} (c : ElementCodec α) (a : α) : Prop :=
  c.fromElement (c.toElement a) = .ok a

/-- A reader of elements reads the same values as the reader that it is made from. -/
theorem ElementCodec.reading_eq_ok_iff {α : Type} {read : List Char → Except String α}
    {text : List Char} {a : α} : reading read text = .ok a ↔ read text = .ok a := by
  cases h : read text <;> simp [reading, h, Except.mapError]

/-- The hexadecimal text of a byte string is read as that byte string. -/
theorem Bytea.read_write (bytes : List UInt8) :
    Bytea.read (Utf8.encode (String.ofList (Bytea.write bytes))) = .ok bytes := by
  have hascii : ∀ c ∈ Bytea.write bytes, c.toNat < 128 := by
    intro c hc
    rcases List.mem_cons.1 hc with rfl | hc
    · decide
    rcases List.mem_cons.1 hc with rfl | hc
    · decide
    · exact Hex.lt_of_mem_encode hc
  have hcodes : (Bytea.write bytes).map Char.toUInt8 =
      backslash :: hexMark :: (Hex.encode bytes).map Char.toUInt8 := rfl
  rw [Utf8.encode_of_lt hascii, hcodes, Bytea.read, if_pos ⟨rfl, rfl⟩, Hex.decode_encode]

namespace ElementType

/-- The element types with a text that tells every value: integers, texts, truth values and byte
strings. -/
def isPlain : ElementType → Bool
  | integer _ | text | bool | bytes => true
  | float _ | timestamp | point | optional _ => false

/-- Every value of a plain type is read back. -/
theorem readsBack {e : ElementType} (h : e.isPlain) (a : e.Val) : e.codec.ReadsBack a := by
  cases e with
  | integer k =>
    have hparse : k.parse a.text = .ok a := IntKind.parse_text a
    simp [ElementCodec.ReadsBack, codec, ElementCodec.integer, ElementCodec.required,
      ElementCodec.reading_eq_ok_iff, ElementCodec.readInteger, hparse, Except.mapError]
  | text => simp [ElementCodec.ReadsBack, codec, ElementCodec.text, ElementCodec.required]
  | bool => cases a <;> rfl
  | bytes =>
    simp [ElementCodec.ReadsBack, codec, ElementCodec.bytes, ElementCodec.required,
      ElementCodec.reading_eq_ok_iff, ElementCodec.readBytes, Bytea.read_write, Except.mapError]
  | float | timestamp | point | optional => cases h

/-- Elements of a plain type are never written as absent. -/
theorem toElement_isSome {e : ElementType} (h : e.isPlain) (a : e.Val) :
    (e.codec.toElement a).isSome := by
  cases e with
  | integer | text | bool | bytes => rfl
  | float | timestamp | point | optional => cases h

/-- Elements that may be absent are read back, if the others are never written so. -/
theorem readsBack_optional {e : ElementType} (h : e.isPlain) (a : Option e.Val) :
    (optional e).codec.ReadsBack a := by
  cases a with
  | none => rfl
  | some a =>
    obtain ⟨text, htext⟩ := Option.isSome_iff_exists.1 (toElement_isSome h a)
    have hread : e.codec.fromElement (some text) = .ok a := htext ▸ readsBack h a
    simp [ElementCodec.ReadsBack, codec, ElementCodec.optional, htext, hread, Except.map]

/-- Elements of a plain type are separated by a comma. -/
theorem delimiter_of_isPlain {e : ElementType} (h : e.isPlain) : e.codec.delimiter = ',' := by
  cases e with
  | integer | text | bool | bytes => rfl
  | float | timestamp | point | optional => cases h

end ElementType

/-- Whether a character can separate elements: it is no brace, no quote and no letter of the absent
element. -/
def CanSeparate (d : Char) : Prop := d ∉ ['\x7b', '\x7d', '"', 'N', 'U', 'L']

instance (d : Char) : Decidable (CanSeparate d) := inferInstanceAs (Decidable (d ∉ _))

namespace CanSeparate

variable {d : Char}

/-- What can separate elements is neither a brace nor a quote. -/
theorem ne (h : CanSeparate d) : d ≠ '\x7b' ∧ d ≠ '\x7d' ∧ d ≠ '"' := by
  simp only [CanSeparate, List.mem_cons, not_or] at h
  exact ⟨h.1, h.2.1, h.2.2.1⟩

/-- The word for an absent element is bare. -/
theorem isBare_nullText (h : CanSeparate d) : ∀ c ∈ nullText, isBare d c := by
  simp only [CanSeparate, List.mem_cons, not_or] at h
  obtain ⟨-, -, -, hn, hu, hl, -⟩ := h
  simp [nullText, isBare, Ne.symm hn, Ne.symm hu, Ne.symm hl]

end CanSeparate

/-- Between its quotes, a quoted element spells the text. -/
theorem quotedText_flatMap (cs : List Char) :
    QuotedText (cs.flatMap fun c => if c = '"' ∨ c = '\\' then ['\\', c] else [c]) cs := by
  induction cs with
  | nil => exact .nil
  | cons c cs ih =>
    rw [List.flatMap_cons]
    by_cases hescape : c = '"' ∨ c = '\\'
    · rw [if_pos hescape]
      exact .escaped ih
    · rw [if_neg hescape]
      rw [not_or] at hescape
      exact .plain hescape.1 hescape.2 ih

/-- A bare text stands for itself, unless it is that of the absent element. -/
theorem ElementText.of_bare {d : Char} {cs : List Char} (hbare : ∀ c ∈ cs, isBare d c)
    (hnull : cs ≠ nullText) : ElementText d cs (some cs) := by
  have hspelled : bareElement cs = some cs := if_neg hnull
  have htext := ElementText.bare hbare
  rwa [hspelled] at htext

/-- A text with its special characters escaped, between quotes, spells the text. -/
theorem ElementText.quoteElement (d : Char) (cs : List Char) :
    ElementText d (quoteElement cs) (some cs) := .quoted (quotedText_flatMap cs)

/-- A text that needs no quotes is bare and does not stand for an absent element. -/
theorem bare_of_not_needsQuotes {d : Char} {cs : List Char} (h : needsQuotes d cs = false) :
    (∀ c ∈ cs, isBare d c) ∧ cs ≠ nullText := by
  simp only [needsQuotes, Bool.or_eq_false_iff, List.any_eq_false, Bool.not_eq_true] at h
  obtain ⟨⟨-, hnull⟩, hchars⟩ := h
  constructor
  · intro c hc
    simpa using (hchars c hc).1.1
  · rintro rfl
    exact absurd hnull (by decide)

/-- What is written for an element is that element. -/
theorem elementText_spells {d : Char} (hd : CanSeparate d) (e : Option (List Char)) :
    ElementText d (elementText d e) e := by
  cases e with
  | none => exact .bare hd.isBare_nullText
  | some cs =>
    rw [elementText]
    cases hquotes : needsQuotes d cs with
    | true => exact .quoteElement d cs
    | false =>
      obtain ⟨hbare, hnull⟩ := bare_of_not_needsQuotes hquotes
      exact .of_bare hbare hnull

/-- No element is written as the empty text. -/
theorem elementText_ne_nil (d : Char) (e : Option (List Char)) : elementText d e ≠ [] := by
  cases e with
  | none => exact List.cons_ne_nil _ _
  | some cs =>
    rw [elementText]
    split
    · exact List.cons_ne_nil _ _
    · rintro rfl
      contradiction

end SqlBinding.SqlArray
