import SqlBinding.Row.Cursor

/-!
# Scripted result sets

A result set that is written down beforehand, with the calls on its cursor that fail.
-/

set_option autoImplicit false

namespace SqlBinding.Scripted

/-- The calls on a cursor that fail; the numbers count the calls of one kind from zero. -/
structure CursorFailures where
  columns : Bool := false
  columnTypes : Bool := false
  close : Bool := false
  next : Option Nat := none
  scan : Option Nat := none
  deriving DecidableEq, Repr

/-- A result set written down beforehand. -/
structure ResultSet where
  columns : List String := []
  columnTypes : List ColumnType := []
  rows : List (List ColumnValue) := []
  failures : CursorFailures := {}
  deriving DecidableEq, Repr

/-- A cursor over a result set: the rows not yet reached, the row reached, and how many calls of two
kinds there have been. -/
structure RowsCursor where
  set : ResultSet
  pending : List (List ColumnValue)
  current : Option (List ColumnValue)
  nexts : Nat
  scans : Nat
  deriving DecidableEq, Repr

/-- The cursor in front of the first row. -/
def ResultSet.cursor (set : ResultSet) : RowsCursor := ⟨set, set.rows, none, 0, 0⟩

namespace RowsCursor

/-- An outcome, or the failure that is written down in its place. -/
def unlessFailing {α : Type} (fails : Bool) (text : String) (a : α) : Except Error α :=
  if fails then .error (.driver text) else .ok a

/-- Moves to the next row. A call that fails moves nowhere. -/
def next (c : RowsCursor) : Except Error Bool × RowsCursor :=
  if c.set.failures.next = some c.nexts then
    (.error (.driver ("next " ++ toString c.nexts ++ " failed")), { c with nexts := c.nexts + 1 })
  else
    (.ok (!c.pending.isEmpty),
      { c with nexts := c.nexts + 1, current := c.pending.head?, pending := c.pending.tail })

/-- The values of the row reached. -/
def scan (c : RowsCursor) : Except Error (List ColumnValue) × RowsCursor :=
  let outcome :=
    if c.set.failures.scan = some c.scans then
      .error (.driver ("scan " ++ toString c.scans ++ " failed"))
    else
      match c.current with
      | none => .error (.driver "scan without a current row")
      | some row => .ok row
  (outcome, { c with scans := c.scans + 1 })

instance : Cursor RowsCursor where
  columns c := (unlessFailing c.set.failures.columns "columns failed" c.set.columns, c)
  columnTypes c :=
    (unlessFailing c.set.failures.columnTypes "column types failed" c.set.columnTypes, c)
  next := next
  scan := scan
  close c := (unlessFailing c.set.failures.close "close failed" (), c)
  remaining c := c.pending.length
  next_lt c h := by
    unfold next at h ⊢
    split at h
    · simp at h
    · rename_i hf
      rw [if_neg hf]
      cases hp : c.pending with
      | nil => simp [hp] at h
      | cons row rows => simp
  scan_le c := Nat.le_refl _

instance : ToString RowsCursor where
  toString c := "rows to come: " ++ toString c.pending.length

end RowsCursor

end SqlBinding.Scripted
