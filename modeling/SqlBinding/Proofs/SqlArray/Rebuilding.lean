import SqlBinding.Proofs.SqlArray.WrittenBack
import SqlBinding.SqlArray.OnePass

/-!
# Arrays rebuilt from their values

Making an array from dimensions and row-major values neither loses nor invents a value: what is made
and what is left are together the given values (`Node.flatAll_build`). If there are as many values
as the dimensions call for, none is left, and every list of nodes has as many entries as the
dimension of its depth says (`Node.build_rebuilds`). Writing such an array in one pass returns the
dimensions as its shape; that pass writes what `encode` does (`Nested.encode_eq_writeLevel`).
-/

set_option autoImplicit false

namespace SqlBinding.SqlArray

variable {α : Type}

namespace Node

/-- The shape that entries have behind some of a known shape, if theirs agree with it and with one
another. -/
def agreed : Option (List Nat) → List (List Nat) → Option (Option (List Nat))
  | known, [] => some known
  | known, shape :: shapes => if fits known shape then agreed (some shape) shapes else none

/-- Entries agree with a known shape if each of them has it. -/
theorem agreed_some (shape : List Nat) (shapes : List (List Nat)) :
    agreed (some shape) shapes =
      if shapes.all (· == shape) then some (some shape) else none := by
  induction shapes with
  | nil => rfl
  | cons next shapes ih =>
    have hfits : fits (some shape) next = (next == shape) := BEq.comm
    rw [agreed, List.all_cons, hfits]
    cases hnext : next == shape with
    | false => rfl
    | true =>
      obtain rfl := eq_of_beq hnext
      simpa using ih

/-- Joining shapes is agreeing on one where none is known before. -/
theorem join_eq_agreed (shapes : List (List Nat)) :
    join shapes = (agreed none shapes).map fun shape? => shapes.length :: shape?.getD [] := by
  cases shapes with
  | nil => rfl
  | cons shape shapes =>
    have hfits : fits none shape = true := rfl
    rw [join, agreed, if_pos hfits, agreed_some]
    cases shapes.all (· == shape) <;> rfl

mutual

/-- A node is written exactly if it has a shape. -/
theorem write_eq (c : ElementCodec α) (node : Node α) :
    node.write c = node.shape?.elim (.error .ragged) fun shape => .ok (node.text c, shape) := by
  cases node with
  | item value => rfl
  | nested children =>
    cases children with
    | nil => rfl
    | cons child children =>
      rw [write, writeEntries_eq c none (child :: children), shape?, text]
      cases hshapes : shapes? (child :: children) with
      | none => rfl
      | some shapes =>
        rw [Option.bind_some, Option.bind_some, join_eq_agreed, length_shapes? hshapes]
        cases agreed none shapes <;> rfl

/-- Entries are written exactly if each has a shape and these agree. -/
theorem writeEntries_eq (c : ElementCodec α) (known : Option (List Nat)) (nodes : List (Node α)) :
    writeEntries c known nodes = ((shapes? nodes).bind (agreed known)).elim (.error .ragged)
      fun shape? => .ok (texts c nodes, shape?) := by
  cases nodes with
  | nil => rfl
  | cons node nodes =>
    rw [writeEntries, write_eq c node, shapes?]
    cases node.shape? with
    | none => rfl
    | some shape =>
      simp only [Option.elim_some, writeEntries_eq c (some shape) nodes]
      cases shapes? nodes with
      | none => cases fits known shape <;> rfl
      | some shapes =>
        simp only [Option.bind_some, agreed]
        cases fits known shape with
        | false => rfl
        | true => cases agreed (some shape) shapes <;> rfl

end

/-- A level is written exactly if its entries have one shape, and that shape is returned. -/
theorem writeLevel_eq (c : ElementCodec α) (nodes : List (Node α)) :
    writeLevel c nodes = (shapeOf? nodes).elim (.error .ragged)
      fun dims => .ok (braced c.delimiter (texts c nodes), dims) := by
  rw [writeLevel, writeEntries_eq, shapeOf?]
  cases hshapes : shapes? nodes with
  | none => rfl
  | some shapes =>
    rw [Option.bind_some, Option.bind_some, join_eq_agreed, length_shapes? hshapes]
    cases agreed none shapes <;> rfl

end Node

/-- The text of an array is what writing it in one pass comes to. -/
theorem Nested.encode_eq_writeLevel (c : ElementCodec α) (a : Nested α) :
    a.encode c = (Node.writeLevel c a.items).map Prod.fst := by
  rw [Node.writeLevel_eq, encode]
  cases Node.shapeOf? a.items <;> rfl

namespace Node

/-- The lists of nodes inside a list of nodes, itself included, each with the number of sub-arrays
around it. -/
inductive ListAt (nodes : List (Node α)) : Nat → List (Node α) → Prop
  | outermost : ListAt nodes 0 nodes
  | inside {depth : Nat} {around children : List (Node α)} (haround : ListAt nodes depth around)
      (hmem : nested children ∈ around) : ListAt nodes (depth + 1) children

/-- Whether a node is an element. -/
def IsItem : Node α → Prop
  | item _ => True
  | nested _ => False

/-- Every list inside nodes of the given dimensions has as many entries as the dimension of its
depth says, and these have the dimensions behind it. -/
theorem ListAt.hasDims {nodes list : List (Node α)} {dims : List Nat} {depth : Nat}
    (hnodes : ∀ node ∈ nodes, HasDims dims node) (h : ListAt nodes depth list) :
    (nodes.length :: dims)[depth]? = some list.length ∧
      ∀ node ∈ list, HasDims (dims.drop depth) node := by
  induction h with
  | outermost => exact ⟨rfl, hnodes⟩
  | @inside depth around children haround hmem ih =>
    have hchildren : HasDims (dims.drop depth) (nested children) := ih.2 _ hmem
    cases hdrop : dims.drop depth with
    | nil =>
      rw [hdrop] at hchildren
      exact absurd hchildren id
    | cons n rest =>
      rw [hdrop] at hchildren
      obtain ⟨hlength, hinner⟩ := hchildren
      have hat : dims[depth]? = some n := by
        rw [← List.head?_drop, hdrop]
        rfl
      have hrest : dims.drop (depth + 1) = rest := by
        rw [← List.tail_drop, hdrop]
        rfl
      constructor
      · rw [List.getElem?_cons_succ, hat, hlength]
      · rw [hrest]
        exact hinner

/-- The nodes with dimensions are sub-arrays, and those without are elements. -/
theorem HasDims.isItem_iff {dims : List Nat} {node : Node α} (h : HasDims dims node) :
    node.IsItem ↔ dims = [] := by
  cases node with
  | item value =>
    cases dims with
    | nil => exact iff_of_true trivial rfl
    | cons n dims => exact absurd h id
  | nested children =>
    cases dims with
    | nil => exact absurd h id
    | cons n dims => exact iff_of_false id (List.cons_ne_nil n dims)

/-- Where no dimension is zero there is no empty sub-array. -/
theorem HasDims.hasShape {dims : List Nat} {node : Node α} (h : HasDims dims node)
    (hpos : ∀ n ∈ dims, 0 < n) : HasShape dims node := by
  induction dims generalizing node with
  | nil =>
    cases node with
    | item value => trivial
    | nested children => exact absurd h id
  | cons n dims ih =>
    cases node with
    | item value => exact absurd h id
    | nested children =>
      obtain ⟨hlength, hchildren⟩ := h
      rw [List.forall_mem_cons] at hpos
      refine ⟨hpos.1, hlength, ?_⟩
      intro child hchild
      exact ih (hchildren child hchild) hpos.2

/-- The elements of values in a row are the values. -/
theorem flatAll_map_item (values : List α) : flatAll (values.map item) = values := by
  induction values with
  | nil => rfl
  | cons value values ih => rw [List.map_cons, flatAll, ih, flat, List.singleton_append]

/-- Making rows keeps the values and their order if making each of them does. -/
theorem flatAll_buildRows {make : List α → List (Node α) × List α}
    (hmake : ∀ values, flatAll (make values).1 ++ (make values).2 = values) (count : Nat)
    (values : List α) :
    flatAll (buildRows make count values).1 ++ (buildRows make count values).2 = values := by
  induction count generalizing values with
  | zero => rfl
  | succ count ih =>
    show (flatAll (make values).1 ++ flatAll (buildRows make count (make values).2).1) ++
      (buildRows make count (make values).2).2 = values
    rw [List.append_assoc, ih, hmake]

/-- Whatever the dimensions are, the elements that are made and the values that are left are
together the given values in their order. -/
theorem flatAll_build (dims : List Nat) (values : List α) :
    flatAll (build dims values).1 ++ (build dims values).2 = values := by
  induction dims generalizing values with
  | nil => rfl
  | cons n dims ih =>
    cases dims with
    | nil => rw [build, flatAll_map_item, List.take_append_drop]
    | cons m dims => exact flatAll_buildRows ih n values

/-- What has been made of all values and nothing else: an array with the given dimensions. -/
structure Rebuilt (dims : List Nat) (values : List α) (made : List (Node α) × List α) : Prop where
  /-- No value is left. -/
  consumed : made.2 = []
  /-- A list of nodes at a depth has as many entries as the dimension of that depth says. -/
  entries : ∀ depth list, ListAt made.1 depth list → dims[depth]? = some list.length
  /-- The entries are elements at the last depth and sub-arrays above it. -/
  kinds : ∀ depth list, ListAt made.1 depth list →
    ∀ node ∈ list, node.IsItem ↔ depth + 1 = dims.length
  /-- The elements in row-major order are the values. -/
  flat : Nested.flat ⟨made.1⟩ = values
  /-- Without a zero among the dimensions the array has a text, and writing it in one pass returns
  that text with the dimensions as its shape. -/
  shape : (∀ n ∈ dims, 0 < n) → ∀ c : ElementCodec α,
    ∃ text, Nested.encode c ⟨made.1⟩ = .ok text ∧ writeLevel c made.1 = .ok (text, dims)

/-- Values as many as the product of dimensions are rebuilt to an array with these dimensions. -/
theorem build_rebuilds {dims : List Nat} {values : List α} (hdims : dims ≠ [])
    (hlength : values.length = dims.prod) : Rebuilt dims values (build dims values) := by
  obtain ⟨n, inner, rfl⟩ := List.exists_cons_of_ne_nil hdims
  obtain ⟨hcount, hnodes, hleft⟩ := makes_build n inner (Nat.le_of_eq hlength.symm)
  have hconsumed : (build (n :: inner) values).2 = [] := by
    rw [hleft, ← hlength, List.drop_length]
  constructor
  · exact hconsumed
  · intro depth list hlist
    rw [← hcount]
    exact (hlist.hasDims hnodes).1
  · intro depth list hlist node hnode
    obtain ⟨hentries, hinner⟩ := hlist.hasDims hnodes
    obtain ⟨hdepth, -⟩ := List.getElem?_eq_some_iff.1 hentries
    rw [(hinner node hnode).isItem_iff, List.drop_eq_nil_iff]
    simp only [List.length_cons] at hdepth ⊢
    omega
  · have hkept := flatAll_build (n :: inner) values
    rw [hconsumed, List.append_nil] at hkept
    exact hkept
  · intro hpos c
    rw [List.forall_mem_cons, ← hcount] at hpos
    have hshape : shapeOf? (build (n :: inner) values).1 = some (n :: inner) := by
      refine (shapeOf?_eq_some_iff (List.length_pos_iff.1 hpos.1)).2 ⟨inner, ?_, ?_⟩
      · rw [hcount]
      · intro node hnode
        exact shape?_eq_some_iff.2 ((hnodes node hnode).hasShape hpos.2)
    refine ⟨braced c.delimiter (texts c (build (n :: inner) values).1), ?_, ?_⟩
    · rw [Nested.encode_eq_writeLevel, writeLevel_eq, hshape]
      rfl
    · rw [writeLevel_eq, hshape]
      rfl

/-- Two rows of three are rebuilt and written; of no values two empty rows are made, which have no
text. -/
theorem build_rebuilds_rows :
    let rows : List (Node Bool) :=
      [nested [item true, item false, item false], nested [item false, item true, item true]]
    let values := [true, false, false, false, true, true]
    ([2, 3] ≠ [] ∧ values.length = [2, 3].prod ∧ build [2, 3] values = (rows, []) ∧
      Rebuilt [2, 3] values (rows, []) ∧
      writeLevel .bool rows = .ok ("\x7b\x7bt,f,f\x7d,\x7bf,t,t\x7d\x7d".toList, [2, 3])) ∧
    [2, 0] ≠ [] ∧ ([] : List Bool).length = [2, 0].prod ∧
      Rebuilt [2, 0] ([] : List Bool) ([nested [], nested []], []) ∧
      writeLevel .bool [nested [], nested []] = .error .ragged := by
  intro rows values
  have hrows : Rebuilt [2, 3] values (rows, []) := build_rebuilds (by decide) rfl
  exact ⟨⟨by decide, rfl, rfl, hrows, rfl⟩, by decide, rfl, build_rebuilds (by decide) rfl, rfl⟩

end Node

end SqlBinding.SqlArray
