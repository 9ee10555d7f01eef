import SqlBinding.Options
import SqlBinding.Session.Executor
import SqlBinding.Sqlite.Rows

/-!
# SQLite connections

A database in memory as a connection. Statements are sent to it as text, which may hold several; a
query answers with the rows of them all.
-/

set_option autoImplicit false

namespace SqlBinding.Sqlite

open Numeric

/-- The report of a text of statements: the id of the row inserted last and the number of rows
changed. -/
structure ChangeReport where
  lastId : I64
  changes : Nat
  deriving DecidableEq, Repr

instance : Report ChangeReport where
  lastInsertId r := (.ok r.lastId, r)
  rowsAffected r :=
    (match IntKind.i64.ofInt? r.changes with
      | some n => .ok n
      | none => .error (.driver "out of range integral type conversion attempted"), r)

namespace Store

/-- The error of a fault. -/
def failure (f : Fault) : Error := .driver f.message

/-- Runs a text and hands out the rows it returns. -/
def query (sql : String) (s : Store) : Except Error Rows × Store :=
  match runAll (Token.statements sql.toList) s with
  | (.ok effect, s) => (.ok (.of effect.rows), s)
  | (.error f, s) => (.error (failure f), s)

/-- The report after statements have run: a text without statements inserts nothing. -/
def report (statements : List (List Token)) (effect : Effect) (s : Store) : ChangeReport :=
  ⟨if statements.isEmpty then IntKind.zero .i64 else s.lastId, effect.changes⟩

/-- Runs a text and reports what it changed. -/
def execute (sql : String) (s : Store) : Except Error ChangeReport × Store :=
  match runAll (Token.statements sql.toList) s with
  | (.ok effect, s) => (.ok (s.report (Token.statements sql.toList) effect), s)
  | (.error f, s) => (.error (failure f), s)

instance : Connection Store Rows ChangeReport where
  query := query
  execute := execute
  release _ s := s
  begin s := (.ok (), s.begin)
  commit s := (.ok (), s.commit)
  rollback s := (.ok (), s.rollback)
  abandon s := s.rollback

end Store

/-- Taking the start of a statement off makes the text shorter. -/
theorem length_drop_start {start cs : List Char} (h : start.isPrefixOf cs ∧ start ≠ []) :
    (cs.drop start.length).length < cs.length := by
  have hle : start.length ≤ cs.length := (List.isPrefixOf_iff_prefix.1 h.1).length_le
  have hpos : 0 < start.length := List.length_pos_iff.2 h.2
  rw [List.length_drop]
  omega

/-- A text without a beginning that may occur several times. -/
def withoutStart (start cs : List Char) : List Char :=
  if _h : start.isPrefixOf cs ∧ start ≠ [] then withoutStart start (cs.drop start.length) else cs
termination_by cs.length
decreasing_by exact length_drop_start _h

/-- The database that a data source name names. -/
def databaseName (dsn : String) : String :=
  String.ofList (withoutStart "sqlite:".toList (withoutStart "sqlite://".toList dsn.toList))

/-- Opens an empty database in memory. There are no databases in files. -/
def connect (o : Options) : Except Error Store :=
  match o.dialect with
  | .error e => .error e
  | .ok .sqlite =>
    if [":memory:", ""].contains (databaseName o.dsn) then .ok {}
    else .error (.driver "unable to open database file")
  | .ok _ => .error (.config (.otherAdapter o.driver))

end SqlBinding.Sqlite
