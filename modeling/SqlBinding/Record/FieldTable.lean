import SqlBinding.Error
import SqlBinding.NameMap
import SqlBinding.Record.Basic

/-!
# Field tables

The column names that a record type can receive, each with the path of declared indices that leads
to its field. Nested records are flattened: their fields are columns of the outer record. Of several
fields with one column name the last one receives the column.
-/

set_option autoImplicit false

namespace SqlBinding.Record

/-- Declared field indices from the outer record down to a leaf. -/
abbrev Path := List Nat

/-- The fields that column names lead to. -/
abbrev FieldTable := NameMap Path

/-- Where a walk over the fields of a record type stands, and the table that it has filled so far.
The path is shared by all steps of the walk. -/
structure Walk where
  path : Path
  table : FieldTable
  deriving DecidableEq, Repr

namespace Walk

/-- Goes down to the field with an index. -/
def enter (index : Nat) (w : Walk) : Walk := { w with path := w.path ++ [index] }

/-- Goes back up. -/
def leave (w : Walk) : Walk := { w with path := w.path.dropLast }

/-- Registers a column where the walk stands. -/
def note (column : String) (w : Walk) : Walk := { w with table := w.table.insert column w.path }

end Walk

mutual

/-- Walks over a field: a leaf is registered under `column`, a nested record with all its fields. -/
def FieldType.visit (column : String) : FieldType → Walk → Walk
  | .leaf _ _, w => w.note column
  | .optional inner _, w => inner.visit column w
  | .boxed inner, w => inner.visit column w
  | .record fields, w => fields.visit 0 w

/-- Walks over fields, the first of which has the given index. Skipped fields count but are left
out. -/
def Fields.visit (index : Nat) : Fields → Walk → Walk
  | .nil, w => w
  | .cons _ column skipped type rest, w =>
    rest.visit (index + 1) (if skipped then w else (type.visit column (w.enter index)).leave)

end

/-- The field table of a record type. -/
def Fields.table (fs : Fields) : FieldTable := (fs.visit 0 ⟨[], .empty⟩).table

/-- The fields that columns lead to; the first column without a field decides. -/
def mapColumns (table : FieldTable) : List String → Except Error (List Path)
  | [] => .ok []
  | column :: columns =>
    match table.get? column with
    | none => .error (.fieldsMatch column)
    | some path => (mapColumns table columns).map (path :: ·)

end SqlBinding.Record
