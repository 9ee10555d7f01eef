import SqlBinding.Proofs.Numeric.ShortestText
import SqlBinding.Proofs.SqlArray.RoundTrip
import SqlBinding.SqlArray.Flat

/-!
# One-dimensional arrays read back

The seven array types share one reader, and differ in whether they write their elements bare or in
quotes. Either way what is written is the text of one element, and that text is read as the element,
a NaN as the one NaN there is in text. From this an array of any length follows, and the only array
whose text the reader treats apart is the empty one.
-/

set_option autoImplicit false

namespace SqlBinding.SqlArray

open Numeric Text

/-- The text of a number is an element as it stands. -/
theorem elementText_of_isNumeral {cs : List Char} (h : ∀ c ∈ cs, isNumeral c) :
    ElementText ',' cs (some cs) := by
  apply ElementText.of_bare
  · intro c hc
    have hne (e : Char) (he : isNumeral e = false) : c ≠ e := by
      rintro rfl
      rw [h c hc] at he
      cases he
    simp [isBare, hne ',' rfl, hne '\x7d' rfl, hne '\x7b' rfl, hne '"' rfl]
  · rintro rfl
    exact absurd (h 'N' (by decide)) (by decide)

namespace FlatType

section

variable {F : FloatFormat} (x : Binary F)

/-- The text of a float is an element as it stands. -/
theorem elementText_floatText : ElementText ',' (floatText x) (some (floatText x)) := by
  unfold floatText
  split
  · -- Both spellings of infinity are bare words.
    split
    · exact .of_bare (List.all_eq_true.1 (by decide)) (by decide)
    · exact .of_bare (List.all_eq_true.1 (by decide)) (by decide)
  · rename_i hinfinite
    by_cases hnan : x.isNaN
    · rw [Binary.display, if_pos hnan]
      exact .of_bare (List.all_eq_true.1 (by decide)) (by decide)
    · apply elementText_of_isNumeral
      intro c
      apply Binary.isNumeral_of_mem_display
      exact Binary.isFinite_iff.2 ⟨by simpa using hnan, by simpa using hinfinite⟩

/-- The text of a floating-point element is read as the element. -/
theorem parse_floatText :
    Binary.parse (floatText x) = .ok (if x.isNaN then .nan else x) := by
  unfold floatText
  split
  · rename_i hinfinite
    have hnan : ¬ x.isNaN := Binary.not_isNaN_of_isInfinite hinfinite
    have hword (negative : Bool) :
        Binary.parse (if negative then "-Infinity".toList else "Infinity".toList) =
          .ok (Binary.infinity (F := F) negative) := by cases negative <;> rfl
    rw [if_neg hnan, hword, Binary.infinity_negative hinfinite]
  · by_cases hnan : x.isNaN
    · rw [Binary.display, if_pos hnan, if_pos hnan]
      rfl
    · rw [if_neg hnan, Binary.parse_display (by simpa using hnan)]

end

/-- Whether an element is a NaN, which only floating-point numbers can be. -/
def isNaN : (t : FlatType) → t.Val → Bool
  | float32, x | float64, x => Binary.isNaN x
  | bool, _ | int32, _ | int64, _ | text, _ | bytea, _ => false

/-- What an element is read as: itself, but any NaN as the same one. -/
def settled : (t : FlatType) → t.Val → t.Val
  | float32, x | float64, x => if Binary.isNaN x then .nan else x
  | bool, v | int32, v | int64, v | text, v | bytea, v => v

/-- What is not a NaN is read as itself. -/
theorem settled_eq_self {t : FlatType} {v : t.Val} (h : t.isNaN v = false) :
    t.settled v = v := by
  cases t with
  | float32 | float64 => exact if_neg (by simpa [isNaN] using h)
  | bool | int32 | int64 | text | bytea => rfl

/-- What is read is a NaN exactly if what was written is. -/
theorem isNaN_settled (t : FlatType) (v : t.Val) : t.isNaN (t.settled v) = t.isNaN v := by
  cases t with
  | float32 | float64 =>
    show Binary.isNaN (if Binary.isNaN v then .nan else v) = Binary.isNaN v
    split
    · rename_i hnan
      rw [hnan]
      decide
    · rfl
  | bool | int32 | int64 | text | bytea => rfl

/-- What is written for an element is the text of one element, which is read as what the element
settles on. -/
theorem exists_elementText_write (t : FlatType) (v : t.Val) :
    ∃ text, ElementText ',' (t.write v) (some text) ∧ t.read text = .ok (t.settled v) := by
  cases t with
  | bool =>
    refine ⟨ElementCodec.writeBool v, ?_, ?_⟩
    · cases v with
      | true => exact .of_bare (List.all_eq_true.1 (by decide)) (by decide)
      | false => exact .of_bare (List.all_eq_true.1 (by decide)) (by decide)
    · cases v <;> rfl
  | int32 | int64 =>
    refine ⟨v.text, elementText_of_isNumeral fun c => Decimal.isNumeral_of_mem_ofInt, ?_⟩
    simp only [read, settled, ElementCodec.readInteger, IntKind.parse_text, Except.mapError]
  | float32 | float64 =>
    refine ⟨floatText v, elementText_floatText v, ?_⟩
    simp only [read, settled, ElementCodec.readFloat, parse_floatText, Except.mapError]
  | text =>
    refine ⟨v.toList, .quoteElement ',' v.toList, ?_⟩
    simp only [read, settled, String.ofList_toList]
  | bytea =>
    refine ⟨Bytea.write v, .quoteElement ',' (Bytea.write v), ?_⟩
    simp only [read, settled, ElementCodec.readBytes, Bytea.read_write, Except.mapError]

/-- No element of a flat array is written as the empty text. -/
theorem write_ne_nil (t : FlatType) (v : t.Val) : t.write v ≠ [] := by
  intro hnil
  cases t with
  | bool => cases v <;> cases hnil
  | int32 | int64 =>
    have hread := IntKind.parse_text v
    rw [show v.text = [] from hnil] at hread
    cases hread
  | float32 | float64 =>
    have hread := parse_floatText v
    rw [show floatText v = [] from hnil] at hread
    cases hread
  | text | bytea => cases hnil

/-- The elements of an array text that is written are the texts of its elements. -/
theorem exists_elements (t : FlatType) (items : List t.Val) :
    ∃ elements, List.Forall₂ (ElementText ',') (items.map t.write) elements ∧
      ∀ index, t.readElements index elements = .ok (items.map t.settled) := by
  induction items with
  | nil => exact ⟨[], .nil, fun _ => rfl⟩
  | cons v items ih =>
    obtain ⟨text, htext, hread⟩ := t.exists_elementText_write v
    obtain ⟨elements, helements, hreads⟩ := ih
    refine ⟨some text :: elements, .cons htext helements, fun index => ?_⟩
    rw [readElements, hread, hreads (index + 1)]
    rfl

/-- Whatever the elements hold, the text of an array is read as the array, in which every NaN is the
one that is read. -/
theorem decode_encode (t : FlatType) (items : List t.Val) :
    t.decode (t.encode items) = .ok (items.map t.settled) := by
  cases items with
  | nil => rfl
  | cons v items =>
    obtain ⟨elements, helements, hread⟩ := t.exists_elements (v :: items)
    have hnonempty : ∀ entry ∈ (v :: items).map t.write, entry ≠ [] := by
      intro entry hentry
      obtain ⟨w, -, rfl⟩ := List.mem_map.1 hentry
      exact t.write_ne_nil w
    have hsrc : t.encode (v :: items) ≠ ['\x7b', '\x7d'] :=
      braced_ne_empty (List.cons_ne_nil _ _) hnonempty
    have harray : ArrayText ',' [((v :: items).map t.write).length] (t.encode (v :: items))
        elements := by
      refine ⟨_, rfl, ?_, helements, rfl⟩
      intro heq
      exact hnonempty [] (by rw [heq]; exact List.mem_singleton_self _) rfl
    have hparse : parse ',' (t.encode (v :: items)) =
        .ok ([((v :: items).map t.write).length], elements) :=
      (parse_eq_ok_iff (by decide) (by decide) (by decide)).2 (.inr ⟨hsrc, harray⟩)
    simp only [decode, hparse, hread 0]
    rfl

/-- A flat array without a NaN is read back as it is. -/
theorem decode_encode_of_not_isNaN {t : FlatType} {items : List t.Val}
    (h : ∀ v ∈ items, t.isNaN v = false) : t.decode (t.encode items) = .ok items := by
  have hsame : items.map t.settled = items := by
    calc items.map t.settled = items.map id :=
          List.map_congr_left fun v hv => settled_eq_self (h v hv)
      _ = items := List.map_id items
  rw [decode_encode, hsame]

/-- The seven array types round trip: the text of an array is read as an array of the same elements,
whatever characters or bytes they hold, but for the NaNs among them, each of which is read as a
NaN. -/
theorem flat_arrays_round_trip (t : FlatType) (items : List t.Val) :
    t.decode (t.encode items) = .ok (items.map t.settled) ∧
      (∀ v ∈ items, (t.isNaN v = false → t.settled v = v) ∧ t.isNaN (t.settled v) = t.isNaN v) ∧
      ((∀ v ∈ items, t.isNaN v = false) → t.decode (t.encode items) = .ok items) := by
  refine ⟨t.decode_encode items, ?_, decode_encode_of_not_isNaN⟩
  intro v _
  exact ⟨settled_eq_self, isNaN_settled t v⟩

/-- Both infinities and the negative zero among single numbers, and texts of which one looks like an
absent element and one like an array; and a NaN with a sign, which it loses. -/
theorem flat_arrays_round_trip_special :
    let singles : List Binary32 := [.infinity false, .infinity true, .ofMagnitude true 0]
    let texts : List String := ["", "nUlL", "\x7b\"a\",\\ b\n\x7d"]
    ((∀ x ∈ singles, float32.isNaN x = false) ∧
      float32.decode (float32.encode singles) = .ok singles) ∧
    ((∀ s ∈ texts, text.isNaN s = false) ∧ text.decode (text.encode texts) = .ok texts) ∧
    float64.decode (float64.encode [.ofMagnitude true (FloatFormat.specialExponent .double *
      twoTo 52 + 1)]) = .ok [.nan] := by
  intro singles texts
  have hsingles : ∀ x ∈ singles, float32.isNaN x = false := by decide
  have htexts : ∀ s ∈ texts, text.isNaN s = false := fun _ _ => rfl
  exact ⟨⟨hsingles, (flat_arrays_round_trip float32 singles).2.2 hsingles⟩,
    ⟨htexts, (flat_arrays_round_trip text texts).2.2 htexts⟩,
    (flat_arrays_round_trip float64 _).1⟩

end FlatType

end SqlBinding.SqlArray
