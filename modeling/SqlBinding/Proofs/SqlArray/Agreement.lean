import SqlBinding.Proofs.SqlArray.FlatRoundTrip
import SqlBinding.Proofs.SqlArray.WrittenBack

/-!
# One-dimensional arrays among those of any dimension

For the element types that both kinds of array read alike, an array of one dimension is an array of
any dimension whose entries are all elements. Both readers parse a text in the same way. One of them
refuses a second dimension; the other makes sub-arrays of it, at least one, since only the innermost
level may be empty.
-/

set_option autoImplicit false

namespace SqlBinding.SqlArray

namespace Nested

variable {α : Type}

/-- Whether all entries of an array are elements. -/
def IsFlat (a : Nested α) : Prop := ∀ node ∈ a.items, ∃ value, node = .item value

/-- A text is decoded by parsing it, reading its elements and building the array. -/
theorem decode_eq_ok_iff {c : ElementCodec α} {src : List Char} {a : Nested α} :
    decode c src = .ok a ↔ ∃ dims elements values, parse c.delimiter src = .ok (dims, elements) ∧
      readElements c 0 elements = .ok values ∧ a = ⟨(Node.build dims values).1⟩ := by
  unfold decode
  constructor
  · intro h
    split at h
    · cases h
    · rename_i dims elements hparse
      obtain ⟨values, hvalues, rfl⟩ := Outcome.map_eq_ok_iff.1 h
      exact ⟨dims, elements, values, hparse, hvalues, rfl⟩
  · rintro ⟨dims, elements, values, hparse, hvalues, rfl⟩
    rw [hparse]
    exact Outcome.map_eq_ok_iff.2 ⟨values, hvalues, rfl⟩

/-- An array made of values in a row is flat. -/
theorem isFlat_ofFlat (values : List α) : (ofFlat values).IsFlat := by
  intro node hnode
  obtain ⟨value, -, rfl⟩ := List.mem_map.1 hnode
  exact ⟨value, rfl⟩

/-- An array all of whose entries are elements is the one with these elements. -/
theorem exists_eq_ofFlat {a : Nested α} (h : a.IsFlat) : ∃ values, a = ofFlat values := by
  obtain ⟨nodes⟩ := a
  suffices ∃ values : List α, nodes = values.map .item by
    obtain ⟨values, rfl⟩ := this
    exact ⟨values, rfl⟩
  induction nodes with
  | nil => exact ⟨[], rfl⟩
  | cons node nodes ih =>
    obtain ⟨value, rfl⟩ := h node List.mem_cons_self
    obtain ⟨values, hvalues⟩ := ih fun node hnode => h node (List.mem_cons_of_mem _ hnode)
    exact ⟨value :: values, by rw [hvalues, List.map_cons]⟩

/-- An array made of values in a row is rectangular. -/
theorem rectangular_ofFlat (values : List α) : (ofFlat values).Rectangular := by
  refine ⟨[], fun node hnode => ?_⟩
  obtain ⟨value, -, rfl⟩ := List.mem_map.1 hnode
  exact trivial

/-- An array made of values in a row tells the values. -/
theorem ofFlat_injective {values values' : List α} (h : ofFlat values = ofFlat values') :
    values = values' :=
  List.map_injective_iff.2 (fun _ _ => Node.item.inj) (Nested.mk.inj h)

/-- The entries that are made of a text that has been parsed are elements if it has at most one
dimension, and then they are all its values. -/
theorem build_of_parse {d : Char} (hd : CanSeparate d) {src : List Char} {dims : List Nat}
    {elements : Elements} {values : List α} (hparse : parse d src = .ok (dims, elements))
    (hlength : values.length = elements.length) :
    (dims.length ≤ 1 → (⟨(Node.build dims values).1⟩ : Nested α) = ofFlat values) ∧
      (1 < dims.length → ¬ (⟨(Node.build dims values).1⟩ : Nested α).IsFlat) := by
  obtain ⟨hopen, hclose, hquote⟩ := hd.ne
  rcases (parse_eq_ok_iff hopen hclose hquote).1 hparse with ⟨-, rfl, rfl⟩ | ⟨-, harray⟩
  · obtain rfl : values = [] := List.length_eq_zero_iff.1 hlength
    exact ⟨fun _ => rfl, fun h => absurd h (by decide)⟩
  · have hfill : values.length = dims.prod := by rw [hlength, harray.length_elements]
    match dims, harray with
    | [n], _ =>
      refine ⟨fun _ => ?_, fun h => absurd h (Nat.lt_irrefl 1)⟩
      rw [List.prod_singleton] at hfill
      rw [Node.build, ← hfill, List.take_length]
      rfl
    | n :: m :: dims, harray =>
      refine ⟨fun h => absurd h (by simp), fun _ hflat => ?_⟩
      obtain ⟨texts, -, rfl, hne, -⟩ := harray
      obtain ⟨hcount, hdims, -⟩ :=
        Node.makes_build texts.length (m :: dims) (Nat.le_of_eq hfill.symm)
      have hpos : 0 < (Node.build (texts.length :: m :: dims) values).1.length := by
        rw [hcount]
        exact List.length_pos_iff.2 hne
      obtain ⟨node, hnode⟩ := List.exists_mem_of_length_pos hpos
      obtain ⟨value, rfl⟩ := hflat node hnode
      exact hdims _ hnode

end Nested

namespace FlatType

/-- How the elements of a type are written and read in arrays of any dimension. -/
def codec : (t : FlatType) → ElementCodec t.Val
  | bool => .bool
  | int32 => .integer .i32
  | int64 => .integer .i64
  | float32 => .float .single
  | float64 => .float .double
  | text => .text
  | bytea => .bytes

/-- A text is decoded by parsing it, for one dimension at most, and reading its elements. -/
theorem decode_eq_ok_iff {t : FlatType} {src : List Char} {values : List t.Val} :
    t.decode src = .ok values ↔ ∃ dims elements, parse ',' src = .ok (dims, elements) ∧
      dims.length ≤ 1 ∧ t.readElements 0 elements = .ok values := by
  unfold decode
  constructor
  · intro h
    split at h
    · cases h
    · rename_i dims elements hparse
      split at h
      · cases h
      · rename_i hdims
        exact ⟨dims, elements, hparse, Nat.le_of_not_lt hdims, h⟩
  · rintro ⟨dims, elements, hparse, hdims, h⟩
    rw [hparse]
    exact (if_neg (Nat.not_lt.2 hdims)).trans h

section

variable {t : FlatType}

/-- Truth values apart, the elements of both kinds of array are read alike. -/
theorem codec_reads (ht : t ≠ bool) :
    t.codec.delimiter = ',' ∧
      (∀ cs, t.codec.fromElement (some cs) = ElementCodec.reading t.read cs) ∧
      ∃ fault, t.codec.fromElement none = .error fault := by
  cases t with
  | bool => exact absurd rfl ht
  | int32 | int64 | float32 | float64 | text | bytea => exact ⟨rfl, fun _ => rfl, _, rfl⟩

/-- But for truth values, flat arrays read their elements as arrays of any dimension do. -/
theorem readElements_eq_ok_iff (ht : t ≠ bool) {elements : Elements} {values : List t.Val}
    {index : Nat} :
    t.readElements index elements = .ok values ↔
      Nested.readElements t.codec index elements = .ok values := by
  obtain ⟨-, hsome, fault, hnone⟩ := codec_reads ht
  induction elements generalizing index values with
  | nil => exact Iff.rfl
  | cons element elements ih =>
    cases element with
    | none =>
      -- Neither kind of array has absent elements.
      rw [readElements, Nested.readElements, hnone]
      constructor
      · intro h
        cases h
      · intro h
        cases h
    | some cs =>
      rw [readElements, Nested.readElements, hsome, ElementCodec.reading]
      cases t.read cs with
      | error reason => exact Iff.of_eq (by simp only [Except.mapError, reduceCtorEq])
      | ok v => simp only [Except.mapError, Outcome.map_eq_ok_iff, ih]

/-- An array of one dimension is read exactly from the texts from which an array of any dimension
is read all of whose entries are elements, and it has these elements. -/
theorem decode_eq_ok_iff_ofFlat (ht : t ≠ bool) {src : List Char} {values : List t.Val} :
    t.decode src = .ok values ↔ Nested.decode t.codec src = .ok (.ofFlat values) := by
  have hcomma : t.codec.delimiter = ',' := (codec_reads ht).1
  have hd : CanSeparate ',' := by decide
  rw [decode_eq_ok_iff, Nested.decode_eq_ok_iff, hcomma]
  constructor
  · rintro ⟨dims, elements, hparse, hdims, hread⟩
    have hread' := (readElements_eq_ok_iff ht).1 hread
    have hbuild := Nested.build_of_parse hd hparse (Nested.length_readElements hread')
    exact ⟨dims, elements, values, hparse, hread', (hbuild.1 hdims).symm⟩
  · rintro ⟨dims, elements, values', hparse, hread, heq⟩
    have hbuild := Nested.build_of_parse hd hparse (Nested.length_readElements hread)
    have hdims : dims.length ≤ 1 := by
      by_contra hmore
      exact hbuild.2 (Nat.lt_of_not_le hmore) (heq ▸ Nested.isFlat_ofFlat values)
    obtain rfl := Nested.ofFlat_injective (heq.trans (hbuild.1 hdims))
    exact ⟨dims, elements, hparse, hdims, (readElements_eq_ok_iff ht).2 hread⟩

end

/-- The types both kinds of array write in texts that are read back without a condition. -/
theorem readsBack_codec {t : FlatType} (ht : t ∈ [int32, int64, text, bytea]) (v : t.Val) :
    t.codec.ReadsBack v := by
  simp only [List.mem_cons, List.not_mem_nil, or_false] at ht
  obtain rfl | rfl | rfl | rfl := ht
  · exact ElementType.readsBack (e := .integer .i32) rfl v
  · exact ElementType.readsBack (e := .integer .i64) rfl v
  · exact ElementType.readsBack (e := .text) rfl v
  · exact ElementType.readsBack (e := .bytes) rfl v

/-- No integer, text or byte string is a NaN. -/
theorem isNaN_eq_false {t : FlatType} (ht : t ∈ [int32, int64, text, bytea]) (v : t.Val) :
    t.isNaN v = false := by
  simp only [List.mem_cons, List.not_mem_nil, or_false] at ht
  obtain rfl | rfl | rfl | rfl := ht <;> rfl

/-- Arrays of integers, texts and byte strings are read alike whether they may have any dimension or
only one: from the texts from which an array is read whose entries are all elements, an array of one
dimension is read that has these elements, and from no other. So the text that either of them is
written in is read as the same elements by the other. -/
theorem flat_and_nested_agree {t : FlatType} (ht : t ∈ [int32, int64, text, bytea]) :
    (∀ src, (∃ values, t.decode src = .ok values) ↔
      ∃ a, Nested.decode t.codec src = .ok a ∧ a.IsFlat) ∧
    (∀ src values a, t.decode src = .ok values → Nested.decode t.codec src = .ok a →
      a.items = values.map .item) ∧
    (∀ values, Nested.decode t.codec (t.encode values) = .ok (.ofFlat values)) ∧
    ∀ values, ∃ text, (Nested.ofFlat values).encode t.codec = .ok text ∧
      t.decode text = .ok values := by
  have hbool : t ≠ bool := by
    rintro rfl
    simp at ht
  have hagree {src : List Char} {values : List t.Val} :
      t.decode src = .ok values ↔ Nested.decode t.codec src = .ok (.ofFlat values) :=
    decode_eq_ok_iff_ofFlat hbool
  refine ⟨fun src => ⟨?_, ?_⟩, ?_, ?_, ?_⟩
  · rintro ⟨values, hvalues⟩
    exact ⟨.ofFlat values, hagree.1 hvalues, Nested.isFlat_ofFlat values⟩
  · rintro ⟨a, ha, hflat⟩
    obtain ⟨values, rfl⟩ := Nested.exists_eq_ofFlat hflat
    exact ⟨values, hagree.2 ha⟩
  · intro src values a hvalues ha
    cases (hagree.1 hvalues).symm.trans ha
    rfl
  · intro values
    exact hagree.1 (decode_encode_of_not_isNaN fun v _ => isNaN_eq_false ht v)
  · intro values
    have hd : CanSeparate t.codec.delimiter := by
      rw [(codec_reads hbool).1]
      decide
    obtain ⟨hok, -, hback⟩ := Nested.roundTrips_of_readsBack (a := .ofFlat values) hd
      fun v _ => readsBack_codec ht v
    obtain ⟨text, htext⟩ := hok.2 (Nested.rectangular_ofFlat values)
    exact ⟨text, htext, hagree.2 (hback text htext)⟩

/-- Texts that only one of the writers quotes; and an array whose one entry is an array without
elements, which has no one-dimensional reading. -/
theorem flat_and_nested_agree_texts :
    (text ∈ [int32, int64, text, bytea] ∧
      Nested.decode text.codec (text.encode ["a", "null"]) = .ok (.ofFlat ["a", "null"]) ∧
      ∃ src, (Nested.ofFlat ["a", "null"]).encode text.codec = .ok src ∧
        text.decode src = .ok ["a", "null"]) ∧
    int64 ∈ [int32, int64, text, bytea] ∧
      ¬ ∃ values, int64.decode "\x7b\x7b\x7d\x7d".toList = .ok values := by
  have htext : text ∈ [int32, int64, text, bytea] := by decide
  have hint : int64 ∈ [int32, int64, text, bytea] := by decide
  obtain ⟨-, -, hflat, hnested⟩ := flat_and_nested_agree htext
  refine ⟨⟨htext, hflat _, hnested _⟩, hint, fun hvalues => ?_⟩
  obtain ⟨a, ha, hall⟩ := ((flat_and_nested_agree hint).1 _).1 hvalues
  have hparse : parse ',' "\x7b\x7b\x7d\x7d".toList = .ok ([1, 0], []) := by decide +kernel
  have hread : Nested.decode int64.codec "\x7b\x7b\x7d\x7d".toList = .ok ⟨[.nested []]⟩ :=
    (Nested.decode_of_parse hparse).trans rfl
  cases hread.symm.trans ha
  obtain ⟨value, hvalue⟩ := hall (.nested []) List.mem_cons_self
  cases hvalue

end FlatType

end SqlBinding.SqlArray
