import SqlBinding.Proofs.Column.Refusal
import SqlBinding.Proofs.Record.Paths
import SqlBinding.Record.Samples
import SqlBinding.Record.Write

/-!
# What a field table says

The field table of a record type has an entry for the column of every leaf that takes part in
scanning, with the path of declared indices that leads to the leaf. A value that is written at a
path of the table may be refused by its leaf, but never for the path.
-/

set_option autoImplicit false

namespace SqlBinding.Record

mutual

/-- A value is written at the path of a leaf, or refused by the leaf. -/
theorem FieldType.pathFree_write (t : FieldType) {path : Path} (hfield : (t.field? path).isSome)
    (old : t.Val) (v : ColumnValue) : PathFree (t.write old path v).2 := by
  cases t with
  | leaf s d =>
    cases path with
    | cons index rest => cases hfield
    | nil =>
      have hscan := PathFree.ofColumn v s
      rw [FieldType.write]
      cases hcolumn : s.ofColumn v with
      | ok new => exact .ok ()
      | error e => exact hscan.of_eq_error hcolumn
  | optional inner filled =>
    rw [FieldType.isSome_field?_optional] at hfield
    unfold FieldType.write
    split
    · split
      · exact inner.pathFree_write hfield _ v
      · exact .ok ()
    · exact inner.pathFree_write hfield _ v
  | boxed inner =>
    rw [FieldType.isSome_field?_boxed] at hfield
    exact inner.pathFree_write hfield old v
  | record fields =>
    cases path with
    | nil => cases hfield
    | cons index rest => exact fields.pathFree_write hfield (index :: rest) old v

/-- A path that leads to a field is never refused. -/
theorem Fields.pathFree_write (fs : Fields) {index : Nat} {rest : Path}
    (hfield : (fs.field? index rest).isSome) (path : Path) (old : fs.Val) (v : ColumnValue) :
    PathFree (fs.write index rest path old v).2 := by
  cases fs with
  | nil => cases hfield
  | cons name column skipped type others =>
    cases index with
    | zero =>
      cases skipped with
      | true => cases hfield
      | false => exact type.pathFree_write hfield old.1 v
    | succ index => exact others.pathFree_write hfield path old.2 v

end

namespace Fields

variable (fs : Fields)

/-- The columns of the table are those of the leaves. -/
theorem mem_names_table_iff (column : String) :
    column ∈ fs.table.names ↔ column ∈ (fs.leaves 0).map Prod.fst := by
  rw [table_eq_insertAll, NameMap.mem_names_insertAll]
  constructor
  · rintro (h | h)
    · cases h
    · exact h
  · exact .inr

/-- The field table and the writing of values fit together. A walk that fills the table comes back
to where it began. The columns of the table are those of the leaves, each once; of several leaves
with one column the last one is in the table, by its path of declared indices, and no two columns
have one path. A write at a path of the table never fails for the path. -/
theorem table_fits_writing (fs : Fields) :
    (∀ w : Walk, (fs.visit 0 w).path = w.path) ∧
    fs.table.names.Nodup ∧
    (∀ column, column ∈ fs.table.names ↔ column ∈ (fs.leaves 0).map Prod.fst) ∧
    (∀ column path, fs.table.get? column = some path ↔ ∃ before after,
      fs.leaves 0 = before ++ (column, path) :: after ∧ column ∉ after.map Prod.fst) ∧
    (∀ column column' path, fs.table.get? column = some path →
      fs.table.get? column' = some path → column = column') ∧
    ∀ column path, fs.table.get? column = some path →
      ∀ (r : fs.Val) (v : ColumnValue) (p : Path),
        (fs.scanField r path v).2 ≠ .error (.fieldPath p) := by
  refine ⟨fun w => ?_, ?_, fs.mem_names_table_iff, fs.get?_table_eq_some_iff,
    fs.unambiguous_table, fun column path hpath r v => ?_⟩
  · rw [fs.visit_eq]
  · rw [table_eq_insertAll]
    exact NameMap.nodup_names_insertAll (m := .empty) List.nodup_nil _
  · exact (FieldType.record fs).pathFree_write (isSome_field?_of_get? hpath) r v

/-- Two columns that a nested record has as well: one leads into the nested record, the other to the
field behind it. -/
theorem table_fits_writing_clash :
    Samples.clash.table.get? "id" = some [1, 0] ∧ Samples.clash.table.get? "tag" = some [2] ∧
      ∀ (r : Samples.clash.Val) (v : ColumnValue) (p : Path),
        (Samples.clash.scanField r [1, 0] v).2 ≠ .error (.fieldPath p) ∧
          (Samples.clash.scanField r [2] v).2 ≠ .error (.fieldPath p) := by
  obtain ⟨-, -, -, -, -, hwrite⟩ := table_fits_writing Samples.clash
  have hid : Samples.clash.table.get? "id" = some [1, 0] := by decide
  have htag : Samples.clash.table.get? "tag" = some [2] := by decide
  refine ⟨hid, htag, fun r v p => ⟨?_, ?_⟩⟩
  · exact hwrite "id" [1, 0] hid r v p
  · exact hwrite "tag" [2] htag r v p

end Fields

end SqlBinding.Record
