import SqlBinding.Proofs.SqlArray.RoundTrip

/-!
# Arrays written back

An array that has been read has the dimensions of its text. Some of them may be zero: an empty
sub-array is read, but not written. So an array that has been read is written back, in a text that
is read as the same array, exactly if none of its sub-arrays is empty (`decoded_written_back`).
-/

set_option autoImplicit false

namespace SqlBinding.SqlArray

variable {α : Type}

namespace Node

/-- Whether a node has the given dimensions, which may be zero: an element has none, and a sub-array
as many entries as the first one says, each of which has the others. -/
def HasDims : List Nat → Node α → Prop
  | [], item _ => True
  | n :: dims, nested children => children.length = n ∧ ∀ node ∈ children, HasDims dims node
  | [], nested _ | _ :: _, item _ => False

/-- Whether a node is an empty sub-array or holds one at some depth. -/
inductive Hollow : Node α → Prop
  | empty : Hollow (nested [])
  | inside {child : Node α} {children : List (Node α)} (hmem : child ∈ children)
      (hchild : Hollow child) : Hollow (nested children)

/-- An element is not hollow. -/
theorem not_hollow_item (value : α) : ¬ Hollow (item value) := by
  intro h
  cases h

/-- A sub-array is not hollow if it has entries, none of which is hollow. -/
theorem not_hollow_nested_iff {children : List (Node α)} :
    ¬ Hollow (nested children) ↔ 0 < children.length ∧ ∀ child ∈ children, ¬ Hollow child := by
  constructor
  · intro h
    refine ⟨?_, fun child hmem hchild => h (.inside hmem hchild)⟩
    rw [List.length_pos_iff]
    rintro rfl
    exact h .empty
  · rintro ⟨hpos, hchildren⟩ h
    cases h with
    | empty => exact absurd hpos (Nat.lt_irrefl 0)
    | inside hmem hchild => exact hchildren _ hmem hchild

/-- Having a shape is having it for dimensions, without an empty sub-array. -/
theorem hasShape_iff {shape : List Nat} {node : Node α} :
    HasShape shape node ↔ HasDims shape node ∧ ¬ Hollow node := by
  induction shape generalizing node with
  | nil =>
    cases node with
    | item value => simp [HasShape, HasDims, not_hollow_item]
    | nested children => simp [HasShape, HasDims]
  | cons n shape ih =>
    cases node with
    | item value => simp [HasShape, HasDims]
    | nested children =>
      simp only [HasShape, HasDims, ih, not_hollow_nested_iff]
      constructor
      · rintro ⟨hpos, rfl, hnodes⟩
        exact ⟨⟨rfl, fun node hnode => (hnodes node hnode).1⟩, hpos,
          fun node hnode => (hnodes node hnode).2⟩
      · rintro ⟨⟨rfl, hdims⟩, hpos, hfull⟩
        exact ⟨hpos, rfl, fun node hnode => ⟨hdims node hnode, hfull node hnode⟩⟩

/-- What making nodes from the first `k` of some values comes to: there are `n` of them, each has
the given dimensions, and the other values are left. -/
def Makes (n : Nat) (dims : List Nat) (k : Nat) (values : List α)
    (made : List (Node α) × List α) : Prop :=
  made.1.length = n ∧ (∀ node ∈ made.1, HasDims dims node) ∧ made.2 = values.drop k

/-- Sub-arrays made one after the other, each from its share of the values. -/
theorem makes_buildRows {make : List α → List (Node α) × List α} {n k : Nat} {dims : List Nat}
    (hmake : ∀ values : List α, k ≤ values.length → Makes n dims k values (make values))
    (count : Nat) {values : List α} (hlength : count * k ≤ values.length) :
    Makes count (n :: dims) (count * k) values (buildRows make count values) := by
  induction count generalizing values with
  | zero =>
    rw [Nat.zero_mul]
    exact ⟨rfl, by simp [buildRows], rfl⟩
  | succ count ih =>
    -- The first sub-array takes its `k` values, and the others are made from what it leaves.
    have hshares : (count + 1) * k = k + count * k := by rw [Nat.succ_mul, Nat.add_comm]
    have hfirst : k ≤ values.length := by omega
    obtain ⟨hn, hdims, hleft⟩ := hmake values hfirst
    have hothers : count * k ≤ (make values).2.length := by
      rw [hleft, List.length_drop]
      omega
    obtain ⟨hcount, hnodes, hrest⟩ := ih hothers
    refine ⟨?_, ?_, ?_⟩
    · show (buildRows make count (make values).2).1.length + 1 = count + 1
      rw [hcount]
    · intro node hnode
      rcases List.mem_cons.1 hnode with rfl | hnode
      · exact ⟨hn, hdims⟩
      · exact hnodes node hnode
    · show (buildRows make count (make values).2).2 = _
      rw [hrest, hleft, List.drop_drop, hshares]

/-- The nodes that are made from dimensions and values enough for them have these dimensions. -/
theorem makes_build (n : Nat) (dims : List Nat) {values : List α}
    (hlength : (n :: dims).prod ≤ values.length) :
    Makes n dims (n :: dims).prod values (build (n :: dims) values) := by
  induction dims generalizing n values with
  | nil =>
    rw [List.prod_singleton] at hlength ⊢
    refine ⟨?_, ?_, rfl⟩
    · simpa [build] using Nat.min_eq_left hlength
    · intro node hnode
      obtain ⟨value, -, rfl⟩ := List.mem_map.1 hnode
      exact trivial
  | cons m dims ih =>
    rw [List.prod_cons] at hlength ⊢
    exact makes_buildRows (fun values hvalues => ih m hvalues) n hlength

end Node

namespace Nested

variable {c : ElementCodec α} {src : List Char} {a : Nested α}

/-- An array is made from the dimensions and the elements that its text is parsed as. -/
theorem decode_of_parse {dims : List Nat} {elements : Elements}
    (h : parse c.delimiter src = .ok (dims, elements)) :
    decode c src =
      (readElements c 0 elements).map fun values => ⟨(Node.build dims values).1⟩ := by
  rw [decode, h]

/-- Reading elements gives a value for each of them. -/
theorem length_readElements {elements : Elements} {index : Nat} {values : List α}
    (h : readElements c index elements = .ok values) : values.length = elements.length := by
  induction elements generalizing index values with
  | nil =>
    cases h
    rfl
  | cons element elements ih =>
    unfold readElements at h
    split at h
    · cases h
    · obtain ⟨rest, hrest, rfl⟩ := Outcome.map_eq_ok_iff.1 h
      rw [List.length_cons, List.length_cons, ih hrest]

/-- The entries of an array that has been read have one shape, in which there may be zeros. -/
theorem hasDims_of_decode (hd : CanSeparate c.delimiter) (h : decode c src = .ok a) :
    ∃ dims, ∀ node ∈ a.items, Node.HasDims dims node := by
  obtain ⟨hopen, hclose, hquote⟩ := hd.ne
  unfold decode at h
  split at h
  · cases h
  · rename_i dims elements hparse
    obtain ⟨values, hvalues, rfl⟩ := Outcome.map_eq_ok_iff.1 h
    rcases (parse_eq_ok_iff hopen hclose hquote).1 hparse with ⟨-, rfl, -⟩ | ⟨-, harray⟩
    · exact ⟨[], by simp [Node.build]⟩
    · have hlength : values.length = dims.prod := by
        rw [length_readElements hvalues, harray.length_elements]
      cases dims with
      | nil => exact absurd harray id
      | cons n dims =>
        obtain ⟨-, hdims, -⟩ := Node.makes_build n dims (Nat.le_of_eq hlength.symm)
        exact ⟨dims, hdims⟩

/-- An array that has been read is rectangular if it has no empty sub-array. -/
theorem rectangular_iff_of_decode (hd : CanSeparate c.delimiter) (h : decode c src = .ok a) :
    a.Rectangular ↔ ∀ node ∈ a.items, ¬ node.Hollow := by
  constructor
  · rintro ⟨shape, hshape⟩ node hnode
    exact (Node.hasShape_iff.1 (hshape node hnode)).2
  · intro hfull
    obtain ⟨dims, hdims⟩ := hasDims_of_decode hd h
    exact ⟨dims, fun node hnode => Node.hasShape_iff.2 ⟨hdims node hnode, hfull node hnode⟩⟩

/-- Whether an array is written back: it has a text that is read as the array if it has no empty
sub-array, and is ragged otherwise. -/
def WrittenBack (c : ElementCodec α) (a : Nested α) : Prop :=
  ((∀ node ∈ a.items, ¬ node.Hollow) →
    ∃ text, a.encode c = .ok text ∧ decode c text = .ok a) ∧
    ∀ node ∈ a.items, node.Hollow → a.encode c = .error .ragged

/-- What is decoded is written back. -/
theorem writtenBack_of_decode (hd : CanSeparate c.delimiter) (hread : ∀ v : α, c.ReadsBack v)
    (h : decode c src = .ok a) : a.WrittenBack c := by
  obtain ⟨hok, hragged, hback⟩ := roundTrips_of_readsBack (a := a) hd fun v _ => hread v
  have hrectangular := rectangular_iff_of_decode hd h
  constructor
  · intro hfull
    obtain ⟨text, htext⟩ := hok.2 (hrectangular.2 hfull)
    exact ⟨text, htext, hback text htext⟩
  · intro node hnode hhollow
    exact hragged fun hrect => hrectangular.1 hrect node hnode hhollow

/-- Whatever text an array of a plain element type or of optional values of one is read from, in
whichever spelling, the array is written back unless one of its sub-arrays is empty. -/
theorem decoded_written_back {e : ElementType} (he : e.isPlain) (src : List Char) :
    (∀ a : Nested e.Val, decode e.codec src = .ok a → a.WrittenBack e.codec) ∧
      ∀ a : Nested (Option e.Val), decode (ElementType.optional e).codec src = .ok a →
        a.WrittenBack (ElementType.optional e).codec := by
  have hd : CanSeparate e.codec.delimiter := by
    rw [ElementType.delimiter_of_isPlain he]
    decide
  constructor
  · intro a h
    exact writtenBack_of_decode hd (ElementType.readsBack he) h
  · intro a h
    exact writtenBack_of_decode hd (ElementType.readsBack_optional he) h

/-- Rows with elements that are written otherwise than they are spelled here; and two empty rows,
which have no text. -/
theorem decoded_written_back_rows :
    let rows : Nested (Option String) :=
      ⟨[.nested [.item (some "a b"), .item (some "")],
        .nested [.item none, .item (some "NULL")]]⟩
    let hollow : Nested String := ⟨[.nested [], .nested []]⟩
    ElementType.text.isPlain ∧
      decode (ElementType.optional .text).codec
        "\x7b\x7ba b,\x7d,\x7bNULL,\"NULL\"\x7d\x7d".toList = .ok rows ∧
      rows.WrittenBack (ElementType.optional .text).codec ∧
      decode ElementType.text.codec "\x7b\x7b\x7d,\x7b\x7d\x7d".toList = .ok hollow ∧
      hollow.encode ElementType.text.codec = .error .ragged := by
  intro rows hollow
  have hrowsText : parse ',' "\x7b\x7ba b,\x7d,\x7bNULL,\"NULL\"\x7d\x7d".toList =
      .ok ([2, 2], [some ['a', ' ', 'b'], some [], none, some nullText]) := by decide +kernel
  have hhollowText : parse ',' "\x7b\x7b\x7d,\x7b\x7d\x7d".toList = .ok ([2, 0], []) := by
    decide +kernel
  have hrows : decode (ElementType.optional .text).codec
      "\x7b\x7ba b,\x7d,\x7bNULL,\"NULL\"\x7d\x7d".toList = .ok rows :=
    (decode_of_parse hrowsText).trans rfl
  have hhollow : decode ElementType.text.codec "\x7b\x7b\x7d,\x7b\x7d\x7d".toList =
      .ok hollow := (decode_of_parse hhollowText).trans rfl
  refine ⟨rfl, hrows, ?_, hhollow, ?_⟩
  · exact (decoded_written_back (e := .text) rfl _).2 rows hrows
  · obtain ⟨-, hragged⟩ := (decoded_written_back (e := .text) rfl _).1 hollow hhollow
    exact hragged (.nested []) (by simp [hollow]) .empty

/-- An array with an empty sub-array is read from its text but has none itself. -/
theorem decoded_empty_row_not_written :
    ¬ ∀ e : ElementType, e.isPlain → ∀ (src : List Char) (a : Nested e.Val),
      decode e.codec src = .ok a → ∃ text, a.encode e.codec = .ok text ∧
        decode e.codec text = .ok a := by
  intro h
  have htext : parse ',' "\x7b\x7b\x7d\x7d".toList = .ok ([1, 0], []) := by decide +kernel
  have hread : decode (ElementType.integer .i64).codec "\x7b\x7b\x7d\x7d".toList =
      .ok ⟨[.nested []]⟩ := (decode_of_parse htext).trans rfl
  obtain ⟨text, htext, -⟩ := h (.integer .i64) rfl _ _ hread
  cases htext

end Nested

end SqlBinding.SqlArray
