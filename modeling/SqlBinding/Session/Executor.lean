import SqlBinding.Affected
import SqlBinding.Row.Cursor

/-!
# Executors and transactions

What statements are sent to. A database is a machine with a state of its own: a query hands out a
cursor, which is handed back when nobody needs it any more; any other statement leaves a report.
A connection can also open a transaction, whose statements go to the same machine until it is
committed, rolled back or abandoned.

A transaction is committed when its body succeeds and rolled back when it fails. The error of the
body outlives a rollback that fails as well.
-/

set_option autoImplicit false

namespace SqlBinding

/-- The machines that run statements, with the cursors and the reports that they hand out. -/
class Executor (δ : Type) (κ ρ : outParam Type) where
  /-- Runs a statement that returns rows. -/
  query : String → δ → Except Error κ × δ
  /-- Runs a statement that returns no rows. -/
  execute : String → δ → Except Error ρ × δ
  /-- Takes a cursor back. -/
  release : κ → δ → δ

/-- The machines that have transactions. -/
class Connection (δ : Type) (κ ρ : outParam Type) extends Executor δ κ ρ where
  /-- Opens a transaction. -/
  begin : δ → Except Error Unit × δ
  /-- Ends the open transaction and keeps what it did. -/
  commit : δ → Except Error Unit × δ
  /-- Ends the open transaction and undoes what it did. -/
  rollback : δ → Except Error Unit × δ
  /-- Gives up a transaction that nobody has ended. -/
  abandon : δ → δ

namespace Session

variable {δ κ ρ : Type}

/-- Runs statements as they are, one after the other; the first that fails ends the run and is named
by the error. -/
def runEach [Executor δ κ ρ] : List String → δ → Except Error Unit × δ
  | [], db => (.ok (), db)
  | statement :: rest, db =>
    match Executor.execute statement db with
    | (.error e, db) => (.error (.execMany statement e), db)
    | (.ok _, db) => runEach rest db

/-- Ends the open transaction as the outcome of its body demands. -/
def conclude {α : Type} [Connection δ κ ρ] (outcome : Except Error α) (db : δ) :
    Except Error α × δ :=
  match outcome with
  | .ok a =>
    match Connection.commit db with
    | (.ok (), db) => (.ok a, db)
    | (.error e, db) => (.error e, db)
  | .error e => (.error e, (Connection.rollback db).2)

/-- Runs a body in a transaction of its own. -/
def transaction {α : Type} [Connection δ κ ρ] (body : δ → Except Error α × δ) (db : δ) :
    Except Error α × δ :=
  match Connection.begin db with
  | (.error e, db) => (.error e, db)
  | (.ok (), db) =>
    match body db with
    | (outcome, db) => conclude outcome db

/-- Runs statements in a transaction of their own. -/
def execMany [Connection δ κ ρ] (statements : List String) (db : δ) : Except Error Unit × δ :=
  transaction (runEach statements) db

end Session

end SqlBinding
