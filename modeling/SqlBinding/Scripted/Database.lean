import SqlBinding.Scripted.Report
import SqlBinding.Scripted.ResultSet
import SqlBinding.Session.Executor
import SqlBinding.Text.Basic

/-!
# Scripted databases

A database whose answers are written down beforehand and which logs all that is asked of it, its
cursors' calls included.
-/

set_option autoImplicit false

namespace SqlBinding.Scripted

/-- What a database is asked. -/
inductive Event
  | query (sql : String)
  | execute (sql : String)
  | begin
  | commit
  | rollback
  /-- A transaction was abandoned. -/
  | abandon
  | cursor (call : CursorCall)
  deriving DecidableEq, Repr

/-- The line of an event in a log. -/
def Event.text : Event → String
  | query sql => "query: " ++ sql
  | execute sql => "execute: " ++ sql
  | begin => "BEGIN"
  | commit => "COMMIT"
  | rollback => "ROLLBACK"
  | abandon => "DROP"
  | cursor call => call.name

/-- A database written down beforehand: the result sets of its queries in order, the texts whose
statements are rejected, the transaction calls that fail, and the report of every statement. -/
structure Database where
  results : List ResultSet := []
  rejected : List String := []
  failBegin : Bool := false
  failCommit : Bool := false
  failRollback : Bool := false
  report : ReportScript := {}
  log : List Event := []

namespace Database

/-- The database with another event in its log. -/
def note (db : Database) (e : Event) : Database := { db with log := db.log ++ [e] }

/-- Whether a statement is rejected. -/
def rejects (db : Database) (sql : String) : Bool :=
  db.rejected.any fun text => Text.occurs text.toList sql.toList

/-- The error of a rejected statement. -/
def rejection (sql : String) : Error := .driver ("rejected: " ++ sql)

/-- Logs a query and hands out the next result set; when all are used up, one without columns. -/
def query (sql : String) (db : Database) : Except Error (Traced RowsCursor) × Database :=
  let db := db.note (.query sql)
  if db.rejects sql then (.error (rejection sql), db)
  else
    match db.results with
    | [] => (.ok ⟨ResultSet.cursor {}, []⟩, db)
    | set :: rest => (.ok ⟨set.cursor, []⟩, { db with results := rest })

/-- Logs a statement and hands out the report. -/
def execute (sql : String) (db : Database) : Except Error ReportScript × Database :=
  let db := db.note (.execute sql)
  if db.rejects sql then (.error (rejection sql), db) else (.ok db.report, db)

/-- Logs a transaction call, which may be written down to fail. -/
def transactionCall (e : Event) (fails : Bool) (db : Database) : Except Error Unit × Database :=
  (if fails then .error (.driver (e.text ++ " failed")) else .ok (), db.note e)

instance : Connection Database (Traced RowsCursor) ReportScript where
  query := query
  execute := execute
  release cursor db := { db with log := db.log ++ cursor.calls.map .cursor }
  begin db := db.transactionCall .begin db.failBegin
  commit db := db.transactionCall .commit db.failCommit
  rollback db := db.transactionCall .rollback db.failRollback
  abandon db := db.note .abandon

end Database

instance {σ : Type} [ToString σ] : ToString (Traced σ) where
  toString t := toString t.state

end SqlBinding.Scripted
