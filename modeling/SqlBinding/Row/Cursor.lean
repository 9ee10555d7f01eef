import SqlBinding.Error

/-!
# Cursors

A cursor walks forward over the rows of a result set. It is a machine with a state of its own, each
call of which may fail, and a bound on the rows that are left, which every row reached lowers: a
cursor has finitely many rows.

`Traced` wraps any cursor so that the calls made on it are remembered.
-/

set_option autoImplicit false

namespace SqlBinding

/-- The machines that walk over result sets. -/
class Cursor (σ : Type) where
  /-- The names of the columns. -/
  columns : σ → Except Error (List String) × σ
  /-- What is known about the columns. -/
  columnTypes : σ → Except Error (List ColumnType) × σ
  /-- Moves to the next row, if there is one. -/
  next : σ → Except Error Bool × σ
  /-- The values of the row reached. -/
  scan : σ → Except Error (List ColumnValue) × σ
  /-- Gives the result set up. -/
  close : σ → Except Error Unit × σ
  /-- A bound on the rows left. -/
  remaining : σ → Nat
  /-- A row reached is one row less left. -/
  next_lt : ∀ s, (next s).1 = .ok true → remaining (next s).2 < remaining s
  /-- Reading a row adds none. -/
  scan_le : ∀ s, remaining (scan s).2 ≤ remaining s

/-- The calls that can be made on a cursor. -/
inductive CursorCall
  | columns
  | columnTypes
  | next
  | scan
  | close
  deriving DecidableEq, Repr

/-- The name of a call. -/
def CursorCall.name : CursorCall → String
  | columns => "columns"
  | columnTypes => "column_types"
  | next => "next"
  | scan => "scan"
  | close => "close"

/-- A cursor together with the calls made on it so far. -/
structure Traced (σ : Type) where
  state : σ
  calls : List CursorCall

namespace Traced

variable {σ : Type}

/-- Makes a call on the cursor and remembers it. -/
def record {α : Type} (call : CursorCall) (f : σ → α × σ) (t : Traced σ) : α × Traced σ :=
  ((f t.state).1, ⟨(f t.state).2, t.calls ++ [call]⟩)

instance [Cursor σ] : Cursor (Traced σ) where
  columns := record .columns Cursor.columns
  columnTypes := record .columnTypes Cursor.columnTypes
  next := record .next Cursor.next
  scan := record .scan Cursor.scan
  close := record .close Cursor.close
  remaining t := Cursor.remaining t.state
  next_lt t h := Cursor.next_lt t.state h
  scan_le t := Cursor.scan_le t.state

end Traced

end SqlBinding
