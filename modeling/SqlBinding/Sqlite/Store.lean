import SqlBinding.Sqlite.Grammar
import SqlBinding.Sqlite.Table

/-!
# Databases in memory

A database is its tables, the id of the row inserted last, and the tables to go back to if the open
transaction is rolled back. The statements of a text run one after the other; one that fails changes
no table and ends the text.
-/

set_option autoImplicit false

namespace SqlBinding.Sqlite

open Numeric

/-- A row of a result, with what is known about its columns. -/
structure ResultRow where
  columns : List ColumnType
  values : List ColumnValue
  deriving DecidableEq, Repr

/-- What statements do besides changing tables: the rows they return and the number of rows they
change. -/
structure Effect where
  rows : List ResultRow := []
  changes : Nat := 0
  deriving DecidableEq, Repr

/-- One effect after another. -/
def Effect.append (a b : Effect) : Effect := ⟨a.rows ++ b.rows, a.changes + b.changes⟩

/-- A database. -/
structure Store where
  tables : List Table := []
  lastId : I64 := IntKind.zero .i64
  saved : Option (List Table) := none
  deriving DecidableEq, Repr

namespace Store

/-- The table of a name. -/
def table (s : Store) (name : String) : Except Fault Table :=
  match s.tables.find? fun t => sameName t.name name with
  | some t => .ok t
  | none => .error (.noTable name)

/-- The database with a table changed. -/
def replace (s : Store) (t : Table) : Store :=
  { s with tables := s.tables.map fun u => if sameName u.name t.name then t else u }

end Store

/-- A count as a result value. -/
def countValue (n : Nat) : ColumnValue :=
  match IntKind.i64.ofInt? n with
  | some k => .int k
  | none => .null

namespace Table

/-- The columns that a selection asks for, with their values in a row. -/
def selected (t : Table) : List Selected → Except Fault (List (ColumnType × Reference))
  | [] => .ok []
  | c :: cs => do
    let ref ← t.resolve c.column
    let rest ← t.selected cs
    let known := t.describe ref
    .ok (({ known with name := c.name.getD known.name }, ref) :: rest)

/-- All columns of a table. -/
def allColumns (t : Table) : List (ColumnType × Reference) :=
  (List.range t.columns.length).map fun index =>
    (t.describe (.column index), Reference.column index)

/-- The result rows of stored rows. -/
def result (columns : List (ColumnType × Reference)) (rows : List Row) : List ResultRow :=
  rows.map fun r =>
    ⟨columns.map (·.1), columns.map fun c => (Reference.value r c.2).toColumn⟩

/-- What a selection makes of rows, once it is known that its columns exist. -/
def project (t : Table) (selection : Selection) : Except Fault (List Row → List ResultRow) :=
  match selection with
  | .all => .ok (result t.allColumns)
  | .columns cs => (t.selected cs).map result
  | .count name => .ok fun rows => [⟨[⟨name, "NULL", none⟩], [countValue rows.length]⟩]

/-- What a statement that changes rows returns of them: nothing, unless it says what. -/
def returned (t : Table) (returning : Option Selection) :
    Except Fault (List Row → List ResultRow) :=
  match returning with
  | none => .ok fun _ => []
  | some (.count _) => .error .notUnderstood
  | some selection => t.project selection

/-- Inserts rows of values one after the other. Returns beside the outcome the id of the last row
that went in. -/
def insertAll (names : List String) :
    List (List Cell) → Table → I64 → Except Fault (Table × List Row) × I64
  | [], t, lastId => (.ok (t, []), lastId)
  | values :: rest, t, lastId =>
    match t.insert names values with
    | .error e => (.error e, lastId)
    | .ok (t, r) =>
      match insertAll names rest t r.id with
      | (.ok (t, rows), lastId) => (.ok (t, r :: rows), lastId)
      | (.error e, lastId) => (.error e, lastId)

/-- Assigns values to columns of rows one after the other. -/
def updateAll (assignments : List (Nat × Cell)) :
    List Row → Table → Except Fault (Table × List Row)
  | [], t => .ok (t, [])
  | r :: rest, t => do
    let (t, new) ← t.update assignments r
    let (t, rows) ← updateAll assignments rest t
    .ok (t, new :: rows)

/-- The columns that assignments are made to. -/
def assignedColumns (t : Table) :
    List (String × Cell) → Except Fault (List (Nat × Cell))
  | [] => .ok []
  | (name, v) :: rest => do
    match ← t.resolve name with
    | .column index => .ok ((index, v) :: (← t.assignedColumns rest))
    | .id => .error (.noColumn name)

/-- Holds an insertion to the columns of the table and to its own width. -/
def checkInsert (t : Table) (names : List String) (rows : List (List Cell)) : Except Fault Unit :=
  match names.find? fun n => !t.columns.any fun c => sameName c.name n with
  | some name => .error (.noColumn name)
  | none => if rows.all fun r => r.length == names.length then .ok () else .error .wrongWidth

end Table

namespace Store

/-- Whether the declarations of columns can stand together: different names and at most one primary
key. -/
def declarable : List ColumnDef → Bool
  | [] => true
  | c :: cs =>
    !(cs.any fun d => sameName d.name c.name) &&
      !(c.primaryKey && cs.any fun d => d.primaryKey) && declarable cs

/-- Declares a table. -/
def createTable (s : Store) (name : String) (columns : List ColumnDef) : Except Fault Store :=
  if s.tables.any fun t => sameName t.name name then .error (.tableExists name)
  else if declarable columns then .ok { s with tables := s.tables ++ [⟨name, columns, []⟩] }
  else .error .badDeclaration

/-- Inserts rows. The id of the last row that went in stays even if a later row fails. -/
def insert (s : Store) (table : String) (columns : Option (List String))
    (rows : List (List Cell)) (returning : Option Selection) : Except Fault Effect × Store :=
  let prepared : Except Fault _ := do
    let t ← s.table table
    let names := columns.getD (t.columns.map ColumnDef.name)
    t.checkInsert names rows
    let view ← t.returned returning
    .ok (t, names, view)
  match prepared with
  | .error e => (.error e, s)
  | .ok (t, names, view) =>
    match Table.insertAll names rows t s.lastId with
    | (.error e, lastId) => (.error e, { s with lastId := lastId })
    | (.ok (t, added), lastId) =>
      (.ok ⟨view added, added.length⟩, { s.replace t with lastId := lastId })

/-- Updates rows. -/
def update (s : Store) (table : String) (assignments : List (String × Cell))
    (filter : Option Filter) (returning : Option Selection) : Except Fault (Effect × Store) := do
  let t ← s.table table
  let columns ← t.assignedColumns assignments
  let rows ← t.filtered filter
  let view ← t.returned returning
  let (t, changed) ← Table.updateAll columns rows t
  .ok (⟨view changed, changed.length⟩, s.replace t)

/-- Deletes rows. -/
def delete (s : Store) (table : String) (filter : Option Filter) (returning : Option Selection) :
    Except Fault (Effect × Store) := do
  let t ← s.table table
  let rows ← t.filtered filter
  let view ← t.returned returning
  .ok (⟨view rows, rows.length⟩, s.replace (t.delete rows))

/-- Selects rows. -/
def select (s : Store) (selection : Selection) (table : String) (filter : Option Filter)
    (order : Option String) : Except Fault Effect := do
  let t ← s.table table
  let view ← t.project selection
  let rows ← t.filtered filter
  let rows ← t.ordered order rows
  .ok ⟨view rows, 0⟩

/-- The row of constant values. -/
def constantRow (values : List (Cell × String)) : ResultRow :=
  ⟨values.map fun v => ⟨v.2, "NULL", none⟩, values.map fun v => v.1.toColumn⟩

/-- An outcome with the database as it was before a failure. -/
def settle (s : Store) : Except Fault (Effect × Store) → Except Fault Effect × Store
  | .ok (effect, s) => (.ok effect, s)
  | .error e => (.error e, s)

/-- Runs a statement. -/
def run (s : Store) : Statement → Except Fault Effect × Store
  | .createTable table columns => s.settle ((s.createTable table columns).map fun s => (⟨[], 0⟩, s))
  | .insert table columns rows returning => s.insert table columns rows returning
  | .update table assignments filter returning =>
    s.settle (s.update table assignments filter returning)
  | .delete table filter returning => s.settle (s.delete table filter returning)
  | .select selection table filter order => (s.select selection table filter order, s)
  | .constants values => (.ok ⟨[constantRow values], 0⟩, s)

/-- Runs the statements of a text, given as their tokens. -/
def runAll : List (List Token) → Store → Except Fault Effect × Store
  | [], s => (.ok {}, s)
  | tokens :: rest, s =>
    match Grammar.statement tokens with
    | none => (.error .notUnderstood, s)
    | some statement =>
      match s.run statement with
      | (.error e, s) => (.error e, s)
      | (.ok effect, s) =>
        match runAll rest s with
        | (.error e, s) => (.error e, s)
        | (.ok later, s) => (.ok (effect.append later), s)

/-- Opens a transaction. -/
def begin (s : Store) : Store := { s with saved := some s.tables }

/-- Keeps what the open transaction did. -/
def commit (s : Store) : Store := { s with saved := none }

/-- Undoes what the open transaction did to the tables. -/
def rollback (s : Store) : Store := { s with tables := s.saved.getD s.tables, saved := none }

end Store

end SqlBinding.Sqlite
