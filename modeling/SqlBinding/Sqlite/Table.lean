import SqlBinding.Sqlite.Statement

/-!
# Tables

A table keeps its rows in the order of their ids. The id of a row is the value of the column that
is declared to hold it, or else it is hidden; a row that comes without an id gets the next one.
-/

set_option autoImplicit false

namespace SqlBinding.Sqlite

open Numeric

/-- A stored row: its id and the values of the columns. -/
structure Row where
  id : I64
  cells : List Cell
  deriving DecidableEq, Repr

/-- A table. -/
structure Table where
  name : String
  columns : List ColumnDef
  rows : List Row
  deriving DecidableEq, Repr

/-- What a name in a statement refers to: the column with an index, or the hidden id. -/
inductive Reference
  | column (index : Nat)
  | id
  deriving DecidableEq, Repr

/-- The value of a row under a reference. -/
def Reference.value (r : Row) : Reference → Cell
  | column index => r.cells[index]?.getD .null
  | id => .int r.id

/-- Why a statement fails. -/
inductive Fault
  | notUnderstood
  | noTable (name : String)
  | noColumn (name : String)
  | tableExists (name : String)
  | badDeclaration
  | wrongWidth
  | badId
  | constraint (table : String)
  deriving DecidableEq, Repr

/-- The wording of a fault. -/
def Fault.message : Fault → String
  | notUnderstood => "syntax error"
  | noTable name => "no such table: " ++ name
  | noColumn name => "no such column: " ++ name
  | tableExists name => "table " ++ name ++ " already exists"
  | badDeclaration => "malformed table declaration"
  | wrongWidth => "values do not match the columns"
  | badId => "datatype mismatch"
  | constraint table => "constraint failed in table " ++ table

/-- What a driver says about the type of a column, by its declared type in any case. -/
def reportedType (declaredType : String) : String :=
  let lower := declaredType.toList.map Char.toLower
  let has (part : String) : Bool := Text.occurs part.toList lower
  match String.ofList lower with
  | "boolean" | "bool" => "BOOLEAN"
  | "date" => "DATE"
  | "time" => "TIME"
  | "datetime" | "timestamp" => "DATETIME"
  | _ =>
    if has "int" then "INTEGER"
    else if has "char" || has "clob" || has "text" then "TEXT"
    else if has "blob" then "BLOB"
    else if has "real" || has "floa" || has "doub" then "REAL"
    else "NULL"

namespace Table

/-- The column that holds the ids. -/
def idIndex? (t : Table) : Option Nat := t.columns.findIdx? ColumnDef.isId

/-- What a name refers to. -/
def resolve (t : Table) (name : String) : Except Fault Reference :=
  match t.columns.findIdx? fun c => sameName c.name name with
  | some index => .ok (.column index)
  | none =>
    if ["ROWID", "OID", "_ROWID_"].contains (upper name) then .ok .id else .error (.noColumn name)

/-- What a driver tells about a reference. -/
def describe (t : Table) : Reference → ColumnType
  | .column index =>
    match t.columns[index]? with
    | some c => ⟨c.name, reportedType c.declaredType, none⟩
    | none => ⟨"", "NULL", none⟩
  | .id => ⟨"rowid", "INTEGER", none⟩

/-- The affinity under a reference. -/
def affinity (t : Table) : Reference → Affinity
  | .column index => ((t.columns[index]?).map ColumnDef.affinity).getD .blob
  | .id => .integer

/-- The id that follows all others; the first one is 1. -/
def nextId? (t : Table) : Option I64 :=
  match t.rows.getLast? with
  | none => IntKind.i64.ofInt? 1
  | some r => IntKind.i64.ofInt? (r.id.val + 1)

/-- Puts a row into rows in the order of ids. -/
def place (r : Row) : List Row → List Row
  | [] => [r]
  | s :: rest => if r.id.val < s.id.val then r :: s :: rest else s :: place r rest

/-- Whether values are there wherever the table demands it. -/
def filled (t : Table) (cells : List Cell) : Bool :=
  (t.columns.zip cells).all fun (c, v) => !c.notNull || v != .null

/-- Whether a row shares its id, or a value that must be unique, with no row of the table. -/
def unique (t : Table) (r : Row) : Bool :=
  t.rows.all fun s =>
    s.id != r.id &&
      (t.columns.zip (s.cells.zip r.cells)).all fun (c, old, new) =>
        !(c.primaryKey && old.equal new)

/-- The table with another row. -/
def add (t : Table) (r : Row) : Except Fault Table :=
  if t.filled r.cells && t.unique r then .ok { t with rows := place r t.rows }
  else .error (.constraint t.name)

/-- The row of given values, with the id that they hold or else the next one. -/
def rowOf (t : Table) (cells : List Cell) : Except Fault Row :=
  match t.idIndex? with
  | none =>
    match t.nextId? with
    | some id => .ok ⟨id, cells⟩
    | none => .error .badId
  | some index =>
    match cells[index]? with
    | some (.int id) => .ok ⟨id, cells⟩
    | some .null =>
      match t.nextId? with
      | some id => .ok ⟨id, cells.set index (.int id)⟩
      | none => .error .badId
    | _ => .error .badId

/-- The value given for a column, or else its default. -/
def given (names : List String) (values : List Cell) (c : ColumnDef) : Cell :=
  match (names.zip values).find? fun p => sameName p.1 c.name with
  | some (_, v) => v
  | none => if c.isId then .null else c.default

/-- Inserts a row of values for the named columns. -/
def insert (t : Table) (names : List String) (values : List Cell) : Except Fault (Table × Row) := do
  let r ← t.rowOf (t.columns.map fun c => c.affinity.store (given names values c))
  let t ← t.add r
  .ok (t, r)

/-- The values of a row after assignments to columns. -/
def assigned (t : Table) (assignments : List (Nat × Cell)) (cells : List Cell) : List Cell :=
  assignments.foldl (fun cs (index, v) => cs.set index ((t.affinity (.column index)).store v)) cells

/-- Assigns values to columns of a row. -/
def update (t : Table) (assignments : List (Nat × Cell)) (r : Row) :
    Except Fault (Table × Row) := do
  let cells := t.assigned assignments r.cells
  let id ← match t.idIndex? with
    | none => .ok r.id
    | some index =>
      match cells[index]? with
      | some (.int id) => .ok id
      | _ => .error .badId
  let others : Table := { t with rows := t.rows.filter fun s => s.id != r.id }
  let t ← others.add ⟨id, cells⟩
  .ok (t, ⟨id, cells⟩)

/-- Deletes rows. -/
def delete (t : Table) (rows : List Row) : Table :=
  { t with rows := t.rows.filter fun s => !rows.any fun r => r.id == s.id }

/-- The rows that a filter lets through. -/
def filtered (t : Table) (filter : Option Filter) : Except Fault (List Row) :=
  match filter with
  | none => .ok t.rows
  | some f => do
    let ref ← t.resolve f.column
    let values := f.values.map (t.affinity ref).compared
    .ok (t.rows.filter fun r => values.any fun v => (Reference.value r ref).equal v)

/-- Rows in the order of a column. -/
def ordered (t : Table) (order : Option String) (rows : List Row) : Except Fault (List Row) :=
  match order with
  | none => .ok rows
  | some name => do
    let ref ← t.resolve name
    .ok (rows.mergeSort fun a b => (Reference.value a ref).le (Reference.value b ref))

end Table

end SqlBinding.Sqlite
