import SqlBinding.Proofs.SqlArray.Elements
import SqlBinding.Proofs.SqlArray.Parsing

/-!
# Arrays of any dimension read back

An array has a text exactly when it is rectangular, and its text is read as that array. `HasShape`
says what rectangular is without computing a shape. The text of a rectangular array is an array text
in the sense of `ArrayText`, so parsing gives back its shape and its elements; from these, `build`
makes the array again.
-/

set_option autoImplicit false

namespace SqlBinding.SqlArray

variable {α : Type}

namespace Node

/-- Whether a node has a shape: an element has none, and a sub-array as many entries as its first
number says, at least one, each of which has the rest of the shape. -/
def HasShape : List Nat → Node α → Prop
  | [], item _ => True
  | n :: shape, nested children =>
    0 < n ∧ children.length = n ∧ ∀ node ∈ children, HasShape shape node
  | [], nested _ | _ :: _, item _ => False

/-- Nodes are written one by one. -/
theorem texts_eq_map (c : ElementCodec α) (nodes : List (Node α)) :
    texts c nodes = nodes.map (text c) := by
  induction nodes with
  | nil => rfl
  | cons node nodes ih => rw [texts, ih, List.map_cons]

/-- The elements of nodes are those of each in turn. -/
theorem flatAll_eq_flatMap (nodes : List (Node α)) : flatAll nodes = nodes.flatMap flat := by
  induction nodes with
  | nil => rfl
  | cons node nodes ih => rw [flatAll, ih, List.flatMap_cons]

/-- Each node has its shape. -/
theorem length_shapes? {nodes : List (Node α)} {shapes : List (List Nat)}
    (h : shapes? nodes = some shapes) : shapes.length = nodes.length := by
  induction nodes generalizing shapes with
  | nil =>
    cases h
    rfl
  | cons node nodes ih =>
    rw [shapes?] at h
    split at h
    · rename_i hrest
      cases h
      simp [ih hrest]
    · cases h

/-- The nodes have one shape if each of them has it. -/
theorem shapes?_eq_replicate_iff {nodes : List (Node α)} {shape : List Nat} :
    shapes? nodes = some (List.replicate nodes.length shape) ↔
      ∀ node ∈ nodes, node.shape? = some shape := by
  induction nodes with
  | nil => simp [shapes?]
  | cons node nodes ih =>
    rw [List.forall_mem_cons, ← ih, shapes?, List.length_cons, List.replicate_succ]
    constructor
    · intro h
      split at h
      · rename_i hshape hrest
        cases h
        exact ⟨hshape, hrest⟩
      · cases h
    · rintro ⟨hshape, hrest⟩
      rw [hshape, hrest]

/-- Shapes join if they agree. -/
theorem join_eq_some_iff {shapes : List (List Nat)} {dims : List Nat} (hne : shapes ≠ []) :
    join shapes = some dims ↔
      ∃ shape, shapes = List.replicate shapes.length shape ∧ dims = shapes.length :: shape := by
  cases shapes with
  | nil => exact absurd rfl hne
  | cons first rest =>
    rw [join]
    constructor
    · intro h
      split at h
      · rename_i hall
        cases h
        refine ⟨first, List.eq_replicate_iff.2 ⟨rfl, fun s hs => ?_⟩, rfl⟩
        rcases List.mem_cons.1 hs with rfl | hs
        · rfl
        · exact eq_of_beq (List.all_eq_true.1 hall s hs)
      · cases h
    · rintro ⟨shape, hshapes, rfl⟩
      have hsame := (List.eq_replicate_iff.1 hshapes).2
      obtain rfl : first = shape := hsame first (by simp)
      rw [if_pos]
      · rfl
      · exact List.all_eq_true.2 fun s hs => beq_of_eq (hsame s (by simp [hs]))

/-- The shape of a list of nodes, if they have one shape. -/
theorem shapeOf?_eq_some_iff {nodes : List (Node α)} {dims : List Nat} (hne : nodes ≠ []) :
    shapeOf? nodes = some dims ↔
      ∃ shape, dims = nodes.length :: shape ∧ ∀ node ∈ nodes, node.shape? = some shape := by
  have hpos : 0 < nodes.length := List.length_pos_iff.2 hne
  constructor
  · intro h
    obtain ⟨shapes, hshapes, hjoin⟩ := Option.bind_eq_some_iff.1 h
    have hlength := length_shapes? hshapes
    obtain ⟨shape, hsame, rfl⟩ :=
      (join_eq_some_iff (List.length_pos_iff.1 (hlength ▸ hpos))).1 hjoin
    rw [hlength] at hsame
    refine ⟨shape, by rw [hlength], shapes?_eq_replicate_iff.1 ?_⟩
    rw [hshapes, hsame]
  · rintro ⟨shape, rfl, h⟩
    refine Option.bind_eq_some_iff.2 ⟨_, shapes?_eq_replicate_iff.2 h, ?_⟩
    refine (join_eq_some_iff (List.length_pos_iff.1 (by simpa using hpos))).2 ⟨shape, ?_, ?_⟩
    · simp
    · simp

/-- A sub-array with entries has the shape that these give it. -/
theorem shape?_nested (child : Node α) (children : List (Node α)) :
    (nested (child :: children)).shape? = shapeOf? (child :: children) := by
  rw [shape?]
  rfl

/-- The shape that is computed is the shape that a node has. -/
theorem shape?_eq_some_iff {node : Node α} {shape : List Nat} :
    node.shape? = some shape ↔ HasShape shape node := by
  induction shape generalizing node with
  | nil =>
    cases node with
    | item value => simp [shape?, HasShape]
    | nested children =>
      cases children with
      | nil => simp [shape?, HasShape]
      | cons child children =>
        rw [shape?_nested, shapeOf?_eq_some_iff (List.cons_ne_nil _ _)]
        simp [HasShape]
  | cons n shape ih =>
    cases node with
    | item value => simp [shape?, HasShape]
    | nested children =>
      cases children with
      | nil =>
        rw [shape?, HasShape]
        constructor
        · intro h
          cases h
        · rintro ⟨hpos, hlength, -⟩
          exact absurd hlength (Nat.ne_of_lt hpos)
      | cons child children =>
        rw [shape?_nested, shapeOf?_eq_some_iff (List.cons_ne_nil _ _), HasShape]
        constructor
        · rintro ⟨_, heq, hnodes⟩
          obtain ⟨rfl, rfl⟩ := List.cons.inj heq
          exact ⟨Nat.succ_pos _, rfl, fun node hnode => ih.1 (hnodes node hnode)⟩
        · rintro ⟨-, rfl, hnodes⟩
          exact ⟨shape, rfl, fun node hnode => ih.2 (hnodes node hnode)⟩

end Node

/-- Whether an array is rectangular: its entries have one shape, in which no sub-array is empty. -/
def Nested.Rectangular (a : Nested α) : Prop :=
  ∃ shape, ∀ node ∈ a.items, Node.HasShape shape node

/-- A rectangular array has a text, and no other. -/
theorem Nested.encode_eq (c : ElementCodec α) (a : Nested α) :
    (a.Rectangular → a.encode c = .ok (braced c.delimiter (a.items.map (Node.text c)))) ∧
      (¬ a.Rectangular → a.encode c = .error .ragged) := by
  have hshape : (Node.shapeOf? a.items).isSome ↔ a.Rectangular := by
    by_cases hempty : a.items = []
    · rw [hempty]
      exact ⟨fun _ => ⟨[], by simp [hempty]⟩, fun _ => rfl⟩
    · rw [Option.isSome_iff_exists]
      constructor
      · rintro ⟨dims, hdims⟩
        obtain ⟨shape, -, h⟩ := (Node.shapeOf?_eq_some_iff hempty).1 hdims
        exact ⟨shape, fun node hnode => Node.shape?_eq_some_iff.1 (h node hnode)⟩
      · rintro ⟨shape, h⟩
        exact ⟨_, (Node.shapeOf?_eq_some_iff hempty).2
          ⟨shape, rfl, fun node hnode => Node.shape?_eq_some_iff.2 (h node hnode)⟩⟩
  constructor
  · intro h
    obtain ⟨dims, hdims⟩ := Option.isSome_iff_exists.1 (hshape.2 h)
    rw [encode, hdims, Node.texts_eq_map]
  · intro h
    have hnone : Node.shapeOf? a.items = none := by
      simpa using fun hsome => h (hshape.1 hsome)
    rw [encode, hnone]

namespace Node

/-- No node is written as the empty text. -/
theorem text_ne_nil (c : ElementCodec α) (node : Node α) : node.text c ≠ [] := by
  cases node with
  | item value => exact elementText_ne_nil _ _
  | nested children => exact List.cons_ne_nil _ _

/-- What the elements of nodes are written from. -/
def elementsOf (c : ElementCodec α) (nodes : List (Node α)) : Elements :=
  (flatAll nodes).map c.toElement

/-- The text of a list of nodes of one shape is an array text with that shape and their elements. -/
theorem arrayText_braced {c : ElementCodec α} (hd : CanSeparate c.delimiter) {shape : List Nat}
    {nodes : List (Node α)} (hne : nodes ≠ []) (h : ∀ node ∈ nodes, HasShape shape node) :
    ArrayText c.delimiter (nodes.length :: shape) (braced c.delimiter (nodes.map (text c)))
      (elementsOf c nodes) := by
  induction shape generalizing nodes with
  | nil =>
    refine ⟨nodes.map (text c), by simp, ?_, ?_, rfl⟩
    · intro heq
      obtain ⟨node, -, hnode⟩ := List.mem_map.1 (heq ▸ List.mem_singleton.2 rfl)
      exact text_ne_nil c node hnode
    · -- Each element is written by itself, so this is an induction over the entries.
      clear hne
      induction nodes with
      | nil => exact .nil
      | cons node nodes ih =>
        cases node with
        | item value =>
          exact .cons (elementText_spells hd _) (ih fun node hnode => h node (by simp [hnode]))
        | nested children => exact absurd (h (nested children) (by simp)) id
  | cons n shape ih =>
    refine ⟨nodes.map (text c), nodes.map fun node => elementsOf c [node], by simp, by simpa, ?_,
      ?_, rfl⟩
    · rw [List.forall₂_map_left_iff, List.forall₂_map_right_iff, List.forall₂_same]
      intro node hnode
      cases node with
      | item value => exact absurd (h (item value) hnode) id
      | nested children =>
        obtain ⟨hpos, rfl, hchildren⟩ := h (nested children) hnode
        have htext := ih (List.length_pos_iff.1 hpos) hchildren
        rw [← texts_eq_map] at htext
        simpa [elementsOf, flatAll, flat, text] using htext
    · simp [elementsOf, flatAll_eq_flatMap, List.flatMap_def, Function.comp_def]

/-- Sub-arrays are made again from their elements, if the nodes of each of them are. -/
theorem buildRows_flatAll {make : List α → List (Node α) × List α} {n : Nat} {shape : List Nat}
    (hmake : ∀ (children : List (Node α)) (rest : List α), children.length = n →
      (∀ node ∈ children, HasShape shape node) → make (flatAll children ++ rest) = (children, rest))
    {nodes : List (Node α)} (h : ∀ node ∈ nodes, HasShape (n :: shape) node) (rest : List α) :
    buildRows make nodes.length (flatAll nodes ++ rest) = (nodes, rest) := by
  induction nodes with
  | nil => rfl
  | cons node nodes ih =>
    cases node with
    | item value => exact absurd (h (item value) (by simp)) id
    | nested children =>
      obtain ⟨-, hlength, hchildren⟩ := h (nested children) (by simp)
      rw [flatAll, flat, List.append_assoc, List.length_cons, buildRows,
        hmake children (flatAll nodes ++ rest) hlength hchildren]
      simp only [ih fun node hnode => h node (by simp [hnode])]

/-- Nodes of one shape are made again from their elements. -/
theorem build_flatAll {shape : List Nat} {nodes : List (Node α)}
    (h : ∀ node ∈ nodes, HasShape shape node) (rest : List α) :
    build (nodes.length :: shape) (flatAll nodes ++ rest) = (nodes, rest) := by
  induction shape generalizing nodes rest with
  | nil =>
    -- Nodes without a shape are elements, of which `build` takes as many as there are.
    have hitems : (flatAll nodes).map item = nodes := by
      induction nodes with
      | nil => rfl
      | cons node nodes ih =>
        cases node with
        | item value =>
          rw [flatAll, flat, List.singleton_append, List.map_cons,
            ih fun node hnode => h node (by simp [hnode])]
        | nested children => exact absurd (h (nested children) (by simp)) id
    have hlength : nodes.length = (flatAll nodes).length := by
      rw [← hitems, List.length_map, hitems]
    rw [build, hlength, List.take_left, List.drop_left, hitems]
  | cons n shape ih =>
    rw [build]
    refine buildRows_flatAll (fun children rest hlength hchildren => ?_) h rest
    rw [← hlength]
    exact ih hchildren rest

end Node

/-- Braces around entries that have texts do not stand alone. -/
theorem braced_ne_empty {d : Char} {entries : List (List Char)} (hne : entries ≠ [])
    (h : ∀ entry ∈ entries, entry ≠ []) : braced d entries ≠ ['\x7b', '\x7d'] := by
  obtain ⟨entry, entries, rfl⟩ := List.exists_cons_of_ne_nil hne
  obtain ⟨c, cs, rfl⟩ := List.exists_cons_of_ne_nil (h entry (by simp))
  intro heq
  have hlength := congrArg List.length heq
  cases entries with
  | nil => simp [braced, List.intercalate] at hlength
  | cons next entries => simp [braced, List.intercalate] at hlength

namespace Nested

variable {c : ElementCodec α}

/-- Values that are read back one by one are read back together. -/
theorem readElements_map {values : List α} (h : ∀ a ∈ values, c.ReadsBack a) (index : Nat) :
    readElements c index (values.map c.toElement) = .ok values := by
  induction values generalizing index with
  | nil => rfl
  | cons a values ih =>
    have hread : c.fromElement (c.toElement a) = .ok a := h a (by simp)
    rw [List.map_cons, readElements, hread]
    simp only [ih fun b hb => h b (by simp [hb]), Except.map]

/-- The text of a rectangular array is read as that array, if its elements are read back. -/
theorem decode_text (hd : CanSeparate c.delimiter) {a : Nested α} (h : a.Rectangular)
    (helems : ∀ e ∈ a.flat, c.ReadsBack e) :
    decode c (braced c.delimiter (a.items.map (Node.text c))) = .ok a := by
  obtain ⟨shape, hshape⟩ := h
  obtain ⟨hopen, hclose, hquote⟩ := hd.ne
  obtain ⟨items⟩ := a
  by_cases hempty : items = []
  · subst hempty
    rfl
  · have htext := Node.arrayText_braced hd hempty hshape
    have hne : braced c.delimiter (items.map (Node.text c)) ≠ ['\x7b', '\x7d'] := by
      refine braced_ne_empty (by simpa using hempty) fun entry hentry => ?_
      obtain ⟨node, -, rfl⟩ := List.mem_map.1 hentry
      exact Node.text_ne_nil c node
    have hparse := (parse_eq_ok_iff hopen hclose hquote).2 (.inr ⟨hne, htext⟩)
    have hbuild := Node.build_flatAll hshape []
    rw [List.append_nil] at hbuild
    have hread : readElements c 0 (Node.elementsOf c items) = .ok (Node.flatAll items) :=
      readElements_map helems 0
    simp only [decode, hparse, hread, Except.map, hbuild]

/-- Whether an array is written and read back: it has a text if it is rectangular and is ragged
otherwise, and its text is read as the array. -/
def RoundTrips (c : ElementCodec α) (a : Nested α) : Prop :=
  ((∃ text, a.encode c = .ok text) ↔ a.Rectangular) ∧
    (¬ a.Rectangular → a.encode c = .error .ragged) ∧
    ∀ text, a.encode c = .ok text → decode c text = .ok a

/-- An array round trips if its elements do. -/
theorem roundTrips_of_readsBack (hd : CanSeparate c.delimiter) {a : Nested α}
    (helems : ∀ e ∈ a.flat, c.ReadsBack e) : a.RoundTrips c := by
  obtain ⟨hok, hragged⟩ := a.encode_eq c
  by_cases h : a.Rectangular
  · refine ⟨⟨fun _ => h, fun _ => ⟨_, hok h⟩⟩, fun hnot => absurd h hnot, fun text htext => ?_⟩
    rw [hok h] at htext
    cases htext
    exact decode_text hd h helems
  · refine ⟨⟨?_, fun hyes => absurd hyes h⟩, hragged, ?_⟩
    · rintro ⟨text, htext⟩
      rw [hragged h] at htext
      cases htext
    · intro text htext
      rw [hragged h] at htext
      cases htext

/-- Arrays of any shape and depth round trip: with any codec whose delimiter can separate, if their
elements are read back, and without a condition those of the plain element types and of their
optional ones, whatever characters their elements hold. -/
theorem arrays_round_trip :
    (∀ {α : Type} (c : ElementCodec α) (a : Nested α), CanSeparate c.delimiter →
      (∀ e ∈ a.flat, c.ReadsBack e) → a.RoundTrips c) ∧
    ∀ e : ElementType, e.isPlain →
      (∀ a : Nested e.Val, a.RoundTrips e.codec) ∧
        ∀ a : Nested (Option e.Val), a.RoundTrips (ElementType.optional e).codec := by
  refine ⟨fun c a hd helems => roundTrips_of_readsBack hd helems, fun e h => ⟨fun a => ?_,
    fun a => ?_⟩⟩
  · refine roundTrips_of_readsBack ?_ fun v _ => ElementType.readsBack h v
    rw [ElementType.delimiter_of_isPlain h]
    decide
  · refine roundTrips_of_readsBack ?_ fun v _ => ElementType.readsBack_optional h v
    have hdelimiter : (ElementType.optional e).codec.delimiter = e.codec.delimiter := rfl
    rw [hdelimiter, ElementType.delimiter_of_isPlain h]
    decide

/-- Two rows of a point each, whose text holds the character that separates other elements; and a
text next to a row, which is ragged. -/
theorem arrays_round_trip_points :
    let points : Nested Point :=
      ⟨[.nested [.item ⟨⟨1, by decide, by decide⟩, ⟨-2, by decide, by decide⟩⟩],
        .nested [.item ⟨⟨3, by decide, by decide⟩, ⟨4, by decide, by decide⟩⟩]]⟩
    let ragged : Nested String := ⟨[.item "nUlL", .nested [.item ","]]⟩
    CanSeparate Point.codec.delimiter ∧ (∀ e ∈ points.flat, Point.codec.ReadsBack e) ∧
      points.RoundTrips Point.codec ∧
      ElementType.text.isPlain ∧ ragged.RoundTrips ElementType.text.codec := by
  intro points ragged
  have hd : CanSeparate Point.codec.delimiter := by decide
  have hpoints : ∀ e ∈ points.flat, Point.codec.ReadsBack e := by
    intro e he
    have hcases : e = ⟨⟨1, by decide, by decide⟩, ⟨-2, by decide, by decide⟩⟩ ∨
        e = ⟨⟨3, by decide, by decide⟩, ⟨4, by decide, by decide⟩⟩ := by
      simpa [points, flat, Node.flatAll, Node.flat] using he
    rcases hcases with rfl | rfl
    · rfl
    · rfl
  exact ⟨hd, hpoints, arrays_round_trip.1 Point.codec points hd hpoints, rfl,
    (arrays_round_trip.2 .text rfl).1 ragged⟩

end Nested

end SqlBinding.SqlArray
