import SqlBinding.Row.Fetch
import SqlBinding.Session.Executor
import SqlBinding.Statement

/-!
# Statement operations

The operations that work on a connection and inside a transaction alike. Each builds one statement
completely before it sends anything. A reading operation takes an empty list among its arguments for
a query without rows; every other operation refuses it.
-/

set_option autoImplicit false

namespace SqlBinding.Session

variable {δ κ ρ : Type} [Executor δ κ ρ]

/-- Sends a query, uses the cursor, and hands it back. -/
def withCursor {α : Type} (use : κ → Except Error α × κ) (sql : List Char) (db : δ) :
    Except Error α × δ :=
  match Executor.query (String.ofList sql) db with
  | (.error e, db) => (.error e, db)
  | (.ok cursor, db) =>
    match use cursor with
    | (outcome, cursor) => (outcome, Executor.release cursor db)

/-- Sends a statement that returns no rows. -/
def send (dialect : Dialect) (sql : List Char) (db : δ) : Except Error (Affected ρ) × δ :=
  match Executor.execute (String.ofList sql) db with
  | (.error e, db) => (.error e, db)
  | (.ok report, db) => (.ok (.ofReport report dialect), db)

/-- Binds all rows of a query. -/
def query [Cursor κ] (dialect : Dialect) (d : Destination) (template : List Char)
    (arguments : List Argument) (db : δ) : Except Error (List d.Val) × δ :=
  match Statement.format dialect template arguments with
  | .error .emptyArrayArgument => (.ok [], db)
  | .error e => (.error e, db)
  | .ok sql => withCursor (Fetch.all d) sql db

/-- Binds all rows of a query to the end of a list, which keeps its contents after an error. -/
def queryInto [Cursor κ] (dialect : Dialect) (d : Destination) (dest : List d.Val)
    (template : List Char) (arguments : List Argument) (db : δ) :
    (Except Error Unit × List d.Val) × δ :=
  match Statement.format dialect template arguments with
  | .error .emptyArrayArgument => ((.ok (), dest), db)
  | .error e => ((.error e, dest), db)
  | .ok sql =>
    match Executor.query (String.ofList sql) db with
    | (.error e, db) => ((.error e, dest), db)
    | (.ok cursor, db) =>
      match Fetch.into d dest cursor with
      | (result, cursor) => (result, Executor.release cursor db)

/-- Binds the only row of a query. -/
def get [Cursor κ] (dialect : Dialect) (d : Destination) (template : List Char)
    (arguments : List Argument) (db : δ) : Except Error d.Val × δ :=
  match Statement.format dialect template arguments with
  | .error .emptyArrayArgument => (.error .emptyResult, db)
  | .error e => (.error e, db)
  | .ok sql => withCursor (Fetch.one d) sql db

/-- Runs a statement: an insertion, an update, a deletion or any other that returns no rows. -/
def exec (dialect : Dialect) (template : List Char) (arguments : List Argument) (db : δ) :
    Except Error (Affected ρ) × δ :=
  match Statement.format dialect template arguments with
  | .error e => (.error e, db)
  | .ok sql => send dialect sql db

/-- Inserts several rows by one statement. -/
def insertMany (dialect : Dialect) (template : List Char) (rows : List (List Argument)) (db : δ) :
    Except Error (Affected ρ) × δ :=
  match Statement.batch dialect template rows with
  | .error e => (.error e, db)
  | .ok sql => send dialect sql db

/-- The statement of every row, of which there must be one. -/
def updates (dialect : Dialect) (template : List Char) (rows : List (List Argument)) :
    Except Error (List Char) :=
  if rows.isEmpty then .error .emptyArrayArgument else Statement.formatAll dialect template rows

/-- Runs a statement for every row, all sent at once. -/
def updateMany (dialect : Dialect) (template : List Char) (rows : List (List Argument)) (db : δ) :
    Except Error (Affected ρ) × δ :=
  match updates dialect template rows with
  | .error e => (.error e, db)
  | .ok sql => send dialect sql db

/-- The type of the ids that statements return. -/
def idColumn : Destination := .scalar (.int .i64)

/-- Runs a statement that returns a column of the rows it changes, and takes the first value for the
id of the row. -/
def execReturning [Cursor κ] (dialect : Dialect) (field template : List Char)
    (arguments : List Argument) (db : δ) : Except Error (Affected ρ) × δ :=
  if dialect.supportsReturning then
    match Statement.format dialect template arguments with
    | .error e => (.error e, db)
    | .ok sql =>
      match withCursor (Fetch.first idColumn) (Statement.withReturning sql field) db with
      | (.error e, db) => (.error e, db)
      | (.ok id, db) => (.ok (.returning id dialect), db)
  else (.error (.unsupportedByDialect .returning dialect), db)

end SqlBinding.Session
