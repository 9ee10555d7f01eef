import SqlBinding.Column.Value
import SqlBinding.CommandLine.Arguments
import SqlBinding.CommandLine.Invocation
import SqlBinding.Session.Operations
import SqlBinding.Session.Executor
import SqlBinding.Sqlite.Connection

/-!
# Running commands

What a command prints, or why it fails. Statements are formatted for any dialect, but run on SQLite
databases only.
-/

set_option autoImplicit false

namespace SqlBinding.CommandLine

open Sqlite (Store ChangeReport)

/-- Why a command fails. -/
inductive Failure
  | error (e : Error)
  | arguments (f : ArgumentsFault)
  /-- There are no databases of the dialect. -/
  | formatOnly (d : Dialect)
  /-- Arguments were given for several statements. -/
  | severalStatements

/-- The wording of a failure. -/
def Failure.message : Failure → String
  | error e => e.message
  | arguments f => f.message
  | formatOnly d =>
    "only SQLite databases can be queried, \x60" ++ d.name ++ "\x60 is format-only"
  | severalStatements => "--args applies to a single statement only"

/-- A text as a line. -/
def line (cs : List Char) : List Char := cs ++ ['\n']

/-- The arguments that a text gives. -/
def argumentsIn (text : String) : Except Failure (List Argument) :=
  (parseArguments text.toList).mapError .arguments

/-- An outcome that may be an error. -/
def lifted {α : Type} (outcome : Except Error α) : Except Failure α := outcome.mapError .error

/-- Only SQLite databases can be opened. -/
def requireSqlite (d : Dialect) : Except Failure Unit :=
  if d = .sqlite then .ok () else .error (.formatOnly d)

/-- The lines that show a report. A number that cannot be told is left out, or called unknown. -/
def reportLines (a : Affected ChangeReport) : List Char :=
  match a.readRowsAffected with
  | (rows, a) =>
    let rowLine := match rows with
      | .ok n => "rows affected: ".toList ++ n.text
      | .error e => ("rows affected: unknown (" ++ e.message ++ ")").toList
    line rowLine ++
      match a.readLastInsertId.1 with
      | .ok id => line ("last insert id: ".toList ++ id.text)
      | .error _ => []

/-- Runs one statement on a database. -/
def execOne (d : Dialect) (template arguments : String) (s : Store) : Except Failure (List Char) := do
  let arguments ← argumentsIn arguments
  let report ← lifted (Session.exec d template.toList arguments s).1
  .ok (reportLines report)

/-- Runs several statements on a database, in one transaction. -/
def execSeveral (statements : List String) (arguments : String) (s : Store) :
    Except Failure (List Char) :=
  if arguments = "[]" then (lifted (Session.execMany statements s).1).map fun _ => []
  else .error .severalStatements

/-- What a command prints. -/
def Command.output (o : Options) (d : Dialect) : Command → Except Failure (List Char)
  | format template arguments => do
    let arguments ← argumentsIn arguments
    (lifted (Statement.format d template.toList arguments)).map line
  | batch template rows => do
    let rows ← (parseRows rows.toList).mapError .arguments
    (lifted (Statement.batch d template.toList rows)).map line
  | query template arguments => do
    requireSqlite d
    let arguments ← argumentsIn arguments
    let s ← lifted (Sqlite.connect o)
    let rows ← lifted (Session.query d .map template.toList arguments s).1
    .ok (line ((Json.Value.list (rows.map rowObject)).pretty 0))
  | exec statements arguments => do
    requireSqlite d
    let s ← lifted (Sqlite.connect o)
    match statements with
    | [template] => execOne d template arguments s
    | _ => execSeveral statements arguments s

/-- What an invocation prints, when files have the given contents. -/
def Invocation.output (contentOf : String → Except String (List UInt8)) (i : Invocation) :
    Except Failure (List Char) := do
  let o ← match i.config with
    | some path => lifted (Options.ofFile path (contentOf path))
    | none => .ok { dsn := i.database, driver := i.driver }
  let d ← lifted o.dialect
  i.command.output o d

/-- The database that is used unless another one is named. -/
def defaultDatabase : String := "sqlite::memory:"

end SqlBinding.CommandLine
