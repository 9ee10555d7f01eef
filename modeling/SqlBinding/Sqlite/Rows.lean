import SqlBinding.Row.Cursor
import SqlBinding.Sqlite.Store
import SqlBinding.Text.Escaped

/-!
# Buffered rows

The rows of a query, all fetched before the first is asked for. What is known about the columns
comes from the first row, so a result without rows has no columns; it outlives the rows.
-/

set_option autoImplicit false

namespace SqlBinding.Sqlite

/-- A cursor over buffered rows. -/
structure Rows where
  columns : List ColumnType
  pending : List ResultRow
  current : Option ResultRow
  deriving DecidableEq, Repr

namespace Rows

/-- The cursor in front of the first of all rows. -/
def of (rows : List ResultRow) : Rows :=
  ⟨((rows.head?).map ResultRow.columns).getD [], rows, none⟩

instance : Cursor Rows where
  columns r := (.ok (r.columns.map ColumnType.name), r)
  columnTypes r := (.ok r.columns, r)
  next r :=
    (.ok (!r.pending.isEmpty), { r with current := r.pending.head?, pending := r.pending.tail })
  scan r :=
    (match r.current with
      | none => .error (.invalidContainer .noCurrentRow)
      | some row => .ok row.values, r)
  close r := (.ok (), { r with pending := [], current := none })
  remaining r := r.pending.length
  next_lt r h := by
    cases hp : r.pending with
    | nil => simp [hp] at h
    | cons row rows => simp
  scan_le r := Nat.le_refl _

/-- The columns and the number of rows not yet reached. -/
def description (r : Rows) : String :=
  "SqliteRows \x7b columns: [" ++
    ", ".intercalate (r.columns.map fun c => String.ofList (Text.quoted c.name.toList)) ++
    "], remaining: " ++ toString r.pending.length ++ ", .. \x7d"

instance : ToString Rows := ⟨description⟩

end Rows

end SqlBinding.Sqlite
