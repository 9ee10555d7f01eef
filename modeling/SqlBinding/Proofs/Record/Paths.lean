import Mathlib.Data.List.Nodup
import SqlBinding.Proofs.NameMap
import SqlBinding.Record.FieldTable

/-!
# Paths of a field table

`leaves` lists the leaves of a record type in the order of a depth-first walk, each with the path
that leads to it, and the table is what they make when they are put in one after the other
(`Fields.visit_eq`). Hence the paths of the table lead to fields that receive a column themselves,
and no two columns have the same one.
-/

set_option autoImplicit false

namespace SqlBinding.Record

/-- Whether a field receives a column itself, rather than through the fields of a record. -/
def FieldType.isLeaf : FieldType → Bool
  | .leaf _ _ => true
  | .optional inner _ => inner.isLeaf
  | .boxed inner => inner.isLeaf
  | .record _ => false

mutual

/-- The field that a path leads to, if it receives a column itself. -/
def FieldType.field? : FieldType → Path → Option FieldType
  | .leaf s d, path => if path.isEmpty then some (.leaf s d) else none
  | .optional inner filled, path =>
    if path.isEmpty then if inner.isLeaf then some (.optional inner filled) else none
    else inner.field? path
  | .boxed inner, path =>
    if path.isEmpty then if inner.isLeaf then some (.boxed inner) else none
    else inner.field? path
  | .record fields, path =>
    match path with
    | [] => none
    | index :: rest => fields.field? index rest

/-- The field that a path leads to from the field with the given index. -/
def Fields.field? : Fields → Nat → Path → Option FieldType
  | .nil, _, _ => none
  | .cons _ _ skipped type _, 0, rest => if skipped then none else type.field? rest
  | .cons _ _ _ _ others, index + 1, rest => others.field? index rest

end

/-- The empty path leads to the field itself, if it is a leaf. -/
theorem FieldType.field?_nil (t : FieldType) : t.field? [] = if t.isLeaf then some t else none := by
  cases t <;> rfl

/-- An optional field is reached by the paths that reach what is in it. -/
theorem FieldType.isSome_field?_optional (inner : FieldType) (filled : Bool) (path : Path) :
    ((FieldType.optional inner filled).field? path).isSome = (inner.field? path).isSome := by
  cases path with
  | nil =>
    rw [field?_nil, field?_nil, isLeaf]
    cases inner.isLeaf <;> rfl
  | cons index rest => rfl

/-- A box is reached by the paths that reach what is in it. -/
theorem FieldType.isSome_field?_boxed (inner : FieldType) (path : Path) :
    ((FieldType.boxed inner).field? path).isSome = (inner.field? path).isSome := by
  cases path with
  | nil =>
    rw [field?_nil, field?_nil, isLeaf]
    cases inner.isLeaf <;> rfl
  | cons index rest => rfl

mutual

/-- The leaves of a field, each with its column and the declared indices that lead to it. A field
that is a leaf itself receives `column`. -/
def FieldType.leaves (column : String) : FieldType → List (String × Path)
  | .leaf _ _ => [(column, [])]
  | .optional inner _ => inner.leaves column
  | .boxed inner => inner.leaves column
  | .record fields => fields.leaves 0

/-- The leaves of fields, the first of which has the given index. Skipped fields have none. -/
def Fields.leaves (index : Nat) : Fields → List (String × Path)
  | .nil => []
  | .cons _ column skipped type rest =>
    (if skipped then [] else (type.leaves column).map fun leaf => (leaf.1, index :: leaf.2)) ++
      rest.leaves (index + 1)

end

/-- Leaves of a field or record that is itself at a path. -/
def below (path : Path) (leaves : List (String × Path)) : List (String × Path) :=
  leaves.map fun leaf => (leaf.1, path ++ leaf.2)

/-- Nothing is added to paths below the top. -/
theorem below_nil (leaves : List (String × Path)) : below [] leaves = leaves := List.map_id' leaves

/-- The leaves of two lists are put below a path list by list. -/
theorem below_append (path : Path) (leaves leaves' : List (String × Path)) :
    below path (leaves ++ leaves') = below path leaves ++ below path leaves' := List.map_append

/-- One step down may be taken before the leaves are listed or behind. -/
theorem below_snoc (path : Path) (index : Nat) (leaves : List (String × Path)) :
    below (path ++ [index]) leaves =
      below path (leaves.map fun leaf => (leaf.1, index :: leaf.2)) := by
  simp [below, Function.comp_def]

mutual

/-- A walk over a field registers its leaves below where the walk stands, and stands there again
afterwards. -/
theorem FieldType.visit_eq (t : FieldType) (column : String) (w : Walk) :
    t.visit column w = ⟨w.path, w.table.insertAll (below w.path (t.leaves column))⟩ := by
  cases t with
  | leaf s d =>
    show Walk.mk w.path (w.table.insert column w.path) =
      Walk.mk w.path (w.table.insert column (w.path ++ []))
    rw [List.append_nil]
  | optional inner filled => exact inner.visit_eq column w
  | boxed inner => exact inner.visit_eq column w
  | record fields => exact fields.visit_eq 0 w

/-- A walk comes back to the path it began at, and has put the leaves of the fields into its table.
-/
theorem Fields.visit_eq (fs : Fields) (index : Nat) (w : Walk) :
    fs.visit index w = ⟨w.path, w.table.insertAll (below w.path (fs.leaves index))⟩ := by
  cases fs with
  | nil => rfl
  | cons name column skipped type rest =>
    rw [Fields.visit, Fields.leaves, below_append, NameMap.insertAll_append, rest.visit_eq]
    cases skipped with
    | true => rfl
    | false =>
      -- the index that was put behind the path is taken away again
      have hfirst : (type.visit column (w.enter index)).leave =
          ⟨w.path, w.table.insertAll (below (w.path ++ [index]) (type.leaves column))⟩ := by
        rw [type.visit_eq, Walk.leave, Walk.enter, List.dropLast_concat]
      rw [below_snoc] at hfirst
      simp only [Bool.false_eq_true, if_false, hfirst]

end

mutual

/-- The path of a leaf leads to a field that receives a column itself. -/
theorem FieldType.isSome_field?_of_mem (t : FieldType) {column : String} {leaf : String × Path}
    (h : leaf ∈ t.leaves column) : (t.field? leaf.2).isSome := by
  cases t with
  | leaf s d =>
    obtain rfl := List.mem_singleton.1 h
    rfl
  | optional inner filled =>
    rw [FieldType.isSome_field?_optional]
    exact inner.isSome_field?_of_mem h
  | boxed inner =>
    rw [FieldType.isSome_field?_boxed]
    exact inner.isSome_field?_of_mem h
  | record fields =>
    obtain ⟨j, rest, hpath, hfield⟩ := fields.isSome_field?_of_mem h
    rw [hpath, Nat.zero_add]
    exact hfield

/-- The path of a leaf leads to a field that receives a column. -/
theorem Fields.isSome_field?_of_mem (fs : Fields) {index : Nat} {leaf : String × Path}
    (h : leaf ∈ fs.leaves index) :
    ∃ j rest, leaf.2 = (index + j) :: rest ∧ (fs.field? j rest).isSome := by
  cases fs with
  | nil => cases h
  | cons name column skipped type others =>
    rcases List.mem_append.1 h with h | h
    · cases skipped with
      | true => cases h
      | false =>
        obtain ⟨leaf, hleaf, rfl⟩ := List.mem_map.1 h
        exact ⟨0, leaf.2, rfl, type.isSome_field?_of_mem hleaf⟩
    · obtain ⟨j, rest, hpath, hfield⟩ := others.isSome_field?_of_mem h
      exact ⟨j + 1, rest, by rw [hpath, Nat.add_assoc, Nat.add_comm 1 j], hfield⟩

end

mutual

/-- A path that leads to a field which receives a column itself is the path of a leaf. -/
theorem FieldType.mem_leaves_of_isSome_field? (t : FieldType) (column : String) {path : Path}
    (h : (t.field? path).isSome) : path ∈ (t.leaves column).map Prod.snd := by
  cases t with
  | leaf s d =>
    cases path with
    | nil => exact List.mem_singleton_self _
    | cons index rest => cases h
  | optional inner filled =>
    rw [FieldType.isSome_field?_optional] at h
    exact inner.mem_leaves_of_isSome_field? column h
  | boxed inner =>
    rw [FieldType.isSome_field?_boxed] at h
    exact inner.mem_leaves_of_isSome_field? column h
  | record fields =>
    cases path with
    | nil => cases h
    | cons index rest =>
      have hmem := fields.mem_leaves_of_isSome_field? 0 h
      rwa [Nat.zero_add] at hmem

/-- A path to a field that receives a column is that of a leaf. -/
theorem Fields.mem_leaves_of_isSome_field? (fs : Fields) (index : Nat) {j : Nat} {rest : Path}
    (h : (fs.field? j rest).isSome) : (index + j) :: rest ∈ (fs.leaves index).map Prod.snd := by
  cases fs with
  | nil => cases h
  | cons name column skipped type others =>
    rw [Fields.leaves, List.map_append, List.mem_append]
    cases j with
    | zero =>
      cases skipped with
      | true => cases h
      | false =>
        obtain ⟨leaf, hleaf, rfl⟩ :=
          List.mem_map.1 (type.mem_leaves_of_isSome_field? column h)
        exact .inl (List.mem_map.2 ⟨_, List.mem_map_of_mem hleaf, rfl⟩)
    | succ j =>
      have hmem := others.mem_leaves_of_isSome_field? (index + 1) h
      rw [Nat.add_assoc, Nat.add_comm 1 j] at hmem
      exact .inr hmem

end

mutual

/-- No two leaves are at one path. -/
theorem FieldType.nodup_leaves (t : FieldType) (column : String) :
    ((t.leaves column).map Prod.snd).Nodup := by
  cases t with
  | leaf s d => exact List.nodup_singleton _
  | optional inner filled => exact inner.nodup_leaves column
  | boxed inner => exact inner.nodup_leaves column
  | record fields => exact fields.nodup_leaves 0

/-- Different leaves have different paths. -/
theorem Fields.nodup_leaves (fs : Fields) (index : Nat) :
    ((fs.leaves index).map Prod.snd).Nodup := by
  cases fs with
  | nil => exact List.nodup_nil
  | cons name column skipped type others =>
    rw [Fields.leaves, List.map_append]
    refine List.nodup_append.2 ⟨?_, others.nodup_leaves (index + 1), ?_⟩
    · cases skipped with
      | true => exact List.nodup_nil
      | false =>
        have hbelow := (type.nodup_leaves column).map (List.cons_injective (a := index))
        simpa [Function.comp_def] using hbelow
    · -- the paths of one field begin with its index, those of the others with a later one
      intro path hpath path' hpath'
      obtain ⟨leaf', hleaf', rfl⟩ := List.mem_map.1 hpath'
      obtain ⟨j, rest, hlater, -⟩ := others.isSome_field?_of_mem hleaf'
      rw [hlater]
      rintro rfl
      cases skipped with
      | true => cases hpath
      | false =>
        simp at hpath
        omega

end

namespace Fields

variable (fs : Fields)

/-- The table of a record has its leaves put in one after the other. -/
theorem table_eq_insertAll : fs.table = NameMap.empty.insertAll (fs.leaves 0) := by
  rw [table, visit_eq, below_nil]

/-- A column leads to the last of the leaves that receive it. -/
theorem get?_table_eq_some_iff (column : String) (path : Path) :
    fs.table.get? column = some path ↔ ∃ before after,
      fs.leaves 0 = before ++ (column, path) :: after ∧ column ∉ after.map Prod.fst := by
  rw [table_eq_insertAll, NameMap.get?_insertAll]
  constructor
  · rintro (h | ⟨-, h⟩)
    · exact h
    · cases h
  · exact .inl

/-- The paths of the leaves are those that lead to a field which receives a column itself. -/
theorem mem_leaves_iff (path : Path) :
    path ∈ (fs.leaves 0).map Prod.snd ↔ ((FieldType.record fs).field? path).isSome := by
  constructor
  · intro h
    obtain ⟨leaf, hleaf, rfl⟩ := List.mem_map.1 h
    have hrecord : leaf ∈ (FieldType.record fs).leaves "" := hleaf
    exact (FieldType.record fs).isSome_field?_of_mem hrecord
  · exact (FieldType.record fs).mem_leaves_of_isSome_field? ""

variable {fs}

/-- What the table tells of a column is a leaf with this column. -/
theorem mem_leaves_of_get? {column : String} {path : Path}
    (h : fs.table.get? column = some path) : (column, path) ∈ fs.leaves 0 := by
  obtain ⟨before, after, hleaves, -⟩ := (fs.get?_table_eq_some_iff column path).1 h
  rw [hleaves]
  exact List.mem_append_right before (List.mem_cons_self)

/-- The path of a column leads to a field that receives a column itself. -/
theorem isSome_field?_of_get? {column : String} {path : Path}
    (h : fs.table.get? column = some path) : ((FieldType.record fs).field? path).isSome := by
  have hleaf : (column, path) ∈ (FieldType.record fs).leaves column := mem_leaves_of_get? h
  exact (FieldType.record fs).isSome_field?_of_mem hleaf

/-- No two columns lead to one path. -/
theorem unambiguous_table (fs : Fields) (column column' : String) (path : Path)
    (h : fs.table.get? column = some path) (h' : fs.table.get? column' = some path) :
    column = column' := by
  have hleaf := List.inj_on_of_nodup_map (fs.nodup_leaves 0) (mem_leaves_of_get? h)
    (mem_leaves_of_get? h') rfl
  exact congrArg Prod.fst hleaf

end Fields

end SqlBinding.Record
