import SqlBinding.Session.Operations
import SqlBinding.Session.Executor

/-!
# Dialogues

A dialogue is a sequence of commands to a connection and to its one open transaction, with the
answers of each. Lists that rows are appended to live as long as the dialogue.
-/

set_option autoImplicit false

namespace SqlBinding.Session

open Numeric

/-- What can be asked of a cursor: a call, or its description. -/
inductive CursorQuestion
  | call (c : CursorCall)
  | describe
  deriving DecidableEq, Repr

/-- What a cursor answers. -/
inductive CursorAnswer
  | columns (outcome : Except Error (List String))
  | columnTypes (outcome : Except Error (List ColumnType))
  | next (outcome : Except Error Bool)
  | scan (outcome : Except Error (List ColumnValue))
  | close (outcome : Except Error Unit)
  | description (text : String)

/-- What can be asked of a connection or a transaction. -/
inductive Command
  | query (d : Destination) (template : List Char) (arguments : List Argument)
  /-- Appends to the list of a name, which is begun empty. -/
  | queryInto (d : Destination) (list : String) (template : List Char) (arguments : List Argument)
  | get (d : Destination) (template : List Char) (arguments : List Argument)
  | exec (template : List Char) (arguments : List Argument)
  | insertMany (template : List Char) (rows : List (List Argument))
  | updateMany (template : List Char) (rows : List (List Argument))
  | execReturning (field template : List Char) (arguments : List Argument)
  | execMany (statements : List String)
  | dialect
  /-- Sends a query as it is and uses the cursor directly. -/
  | cursor (sql : String) (questions : List CursorQuestion)

/-- What a connection or a transaction answers. -/
inductive Answer
  | rows (d : Destination) (outcome : Except Error (List d.Val))
  | row (d : Destination) (outcome : Except Error d.Val)
  /-- How appending went, and the list afterwards. -/
  | appended (d : Destination) (outcome : Except Error Unit) (list : List d.Val)
  /-- The id of the last row inserted and the number of rows affected. -/
  | report (outcome : Except Error (Except Error I64 × Except Error I64))
  | done (outcome : Except Error Unit)
  | dialect (d : Dialect)
  | cursor (outcome : Except Error (List CursorAnswer))

/-- The error of an outcome. -/
def errorOf {α : Type} : Except Error α → Option Error
  | .ok _ => none
  | .error e => some e

/-- The error by which an answer ends a transaction. What happens on a cursor that is used directly
ends none. -/
def Answer.failure? : Answer → Option Error
  | rows _ outcome => errorOf outcome
  | row _ outcome => errorOf outcome
  | appended _ outcome _ => errorOf outcome
  | report outcome => errorOf outcome
  | done outcome => errorOf outcome
  | dialect _ | cursor _ => none

/-- A database, the lists that rows are appended to, and the answers of the transaction that is
running. -/
structure Dialogue (δ : Type) where
  db : δ
  lists : NameMap ((d : Destination) × List d.Val) := .empty
  answers : List Answer := []

namespace Dialogue

variable {δ κ ρ : Type}

/-- Does something with the database of a dialogue. -/
def onDb {α : Type} (f : δ → α × δ) (s : Dialogue δ) : α × Dialogue δ :=
  match f s.db with
  | (a, db) => (a, { s with db := db })

instance [Connection δ κ ρ] : Connection (Dialogue δ) κ ρ where
  query sql := onDb (Executor.query sql)
  execute sql := onDb (Executor.execute sql)
  release cursor s := { s with db := Executor.release cursor s.db }
  begin := onDb Connection.begin
  commit := onDb Connection.commit
  rollback := onDb Connection.rollback
  abandon s := { s with db := Connection.abandon s.db }

/-- Appends the rows of a query to the list of a name. -/
def append [Connection δ κ ρ] [Cursor κ] (dialect : Dialect) (d : Destination) (list : String)
    (template : List Char) (arguments : List Argument) (s : Dialogue δ) : Answer × Dialogue δ :=
  match (s.lists.get? list).getD ⟨d, []⟩ with
  | ⟨d, dest⟩ =>
    match queryInto dialect d dest template arguments s.db with
    | ((outcome, dest), db) =>
      (.appended d outcome dest, { s with db := db, lists := s.lists.insert list ⟨d, dest⟩ })

end Dialogue

/-- Reads both numbers of a report. -/
def readReport {ρ : Type} [Report ρ] (a : Affected ρ) : Except Error I64 × Except Error I64 :=
  match a.readLastInsertId with
  | (id, a) => (id, a.readRowsAffected.1)

/-- Asks a cursor a question. -/
def CursorQuestion.ask {κ : Type} [Cursor κ] [ToString κ] : CursorQuestion → κ → CursorAnswer × κ
  | call .columns, cursor => ((Cursor.columns cursor).map .columns id)
  | call .columnTypes, cursor => (Cursor.columnTypes cursor).map .columnTypes id
  | call .next, cursor => (Cursor.next cursor).map .next id
  | call .scan, cursor => (Cursor.scan cursor).map .scan id
  | call .close, cursor => (Cursor.close cursor).map .close id
  | describe, cursor => (.description (toString cursor), cursor)

/-- Asks a cursor questions one after the other. -/
def askAll {κ : Type} [Cursor κ] [ToString κ] :
    List CursorQuestion → κ → List CursorAnswer × κ
  | [], cursor => ([], cursor)
  | q :: questions, cursor =>
    match q.ask cursor with
    | (a, cursor) => (askAll questions cursor).map (a :: ·) id

section

variable {δ κ ρ : Type} [Connection δ κ ρ] [Cursor κ] [Report ρ] [ToString κ]

/-- Runs a command on a connection or, when `inside` is set, in its open transaction. -/
def Command.run (dialect : Dialect) (inside : Bool) :
    Command → Dialogue δ → Answer × Dialogue δ
  | query d template arguments, s =>
    (Session.query dialect d template arguments s).map (.rows d) id
  | queryInto d list template arguments, s => s.append dialect d list template arguments
  | get d template arguments, s => (Session.get dialect d template arguments s).map (.row d) id
  | exec template arguments, s => (Session.exec dialect template arguments s).map reported id
  | insertMany template rows, s => (Session.insertMany dialect template rows s).map reported id
  | updateMany template rows, s => (Session.updateMany dialect template rows s).map reported id
  | execReturning field template arguments, s =>
    (Session.execReturning dialect field template arguments s).map reported id
  | execMany statements, s =>
    (if inside then runEach statements s else Session.execMany statements s).map .done id
  | .dialect, s => (.dialect dialect, s)
  | cursor sql questions, s =>
    (withCursor (fun c => (askAll questions c).map .ok id) sql.toList s).map .cursor id
where
  /-- The answer of a statement that leaves a report. -/
  reported (outcome : Except Error (Affected ρ)) : Answer := .report (outcome.map readReport)

/-- Runs commands in the open transaction and notes their answers. The first failure ends the run,
unless it is tolerated. -/
def runBody (dialect : Dialect) :
    List (Command × Bool) → Dialogue δ → Except Error Unit × Dialogue δ
  | [], s => (.ok (), s)
  | (c, tolerated) :: rest, s =>
    match c.run dialect true s with
    | (a, s) =>
      let s := { s with answers := s.answers ++ [a] }
      match a.failure? with
      | some e => if tolerated then runBody dialect rest s else (.error e, s)
      | none => runBody dialect rest s

/-- Runs commands in the open transaction and then fails by itself if a failure is given. -/
def runBodyThen (dialect : Dialect) (body : List (Command × Bool)) (failure : Option Error)
    (s : Dialogue δ) : Except Error Unit × Dialogue δ :=
  match runBody dialect body s, failure with
  | (.ok (), s), some e => (.error e, s)
  | result, _ => result

end

/-- A step of a dialogue. -/
inductive Step
  | onConnection (c : Command)
  | inTransaction (c : Command)
  | begin
  | commit
  | rollback
  /-- Gives the open transaction up. -/
  | abandon
  /-- Runs commands, each of which may be allowed to fail, in a transaction of their own, which may
  fail by itself at the end. -/
  | transaction (body : List (Command × Bool)) (failure : Option Error)

/-- What a step is answered by. -/
inductive StepAnswer
  | command (a : Answer)
  /-- How a transaction went, and the answers of its commands. -/
  | transaction (outcome : Except Error Unit) (answers : List Answer)

/-- A dialogue with the knowledge of whether a transaction is open. -/
structure OpenDialogue (δ : Type) where
  dialogue : Dialogue δ
  inTransaction : Bool := false

section

variable {δ κ ρ : Type} [Connection δ κ ρ]

/-- Gives the open transaction up, if there is one. -/
def OpenDialogue.abandon (s : OpenDialogue δ) : OpenDialogue δ :=
  if s.inTransaction then ⟨Connection.abandon s.dialogue, false⟩ else s

/-- Ends the open transaction by `f`, whatever it answers. -/
def OpenDialogue.finish (f : Dialogue δ → Except Error Unit × Dialogue δ) (s : OpenDialogue δ) :
    StepAnswer × OpenDialogue δ :=
  match f s.dialogue with
  | (outcome, d) => (.command (.done outcome), ⟨d, false⟩)

/-- Takes a step. A transaction that begins while another is open takes its place. -/
def Step.take [Cursor κ] [Report ρ] [ToString κ] (dialect : Dialect) :
    Step → OpenDialogue δ → StepAnswer × OpenDialogue δ
  | onConnection c, s =>
    (c.run dialect false s.dialogue).map .command fun d => { s with dialogue := d }
  | inTransaction c, s =>
    (c.run dialect true s.dialogue).map .command fun d => { s with dialogue := d }
  | begin, s =>
    match Connection.begin s.dialogue with
    | (.error e, d) => (.command (.done (.error e)), { s with dialogue := d })
    | (.ok (), d) =>
      let s := { s with dialogue := d }.abandon
      (.command (.done (.ok ())), { s with inTransaction := true })
  | commit, s => s.finish Connection.commit
  | rollback, s => s.finish Connection.rollback
  | .abandon, s => (.command (.done (.ok ())), s.abandon)
  | transaction body failure, s =>
    match Session.transaction (runBodyThen dialect body failure)
        { s.dialogue with answers := [] } with
    | (outcome, d) => (.transaction outcome d.answers, { s with dialogue := d })

/-- Takes steps one after the other. -/
def takeAll [Cursor κ] [Report ρ] [ToString κ] (dialect : Dialect) :
    List Step → OpenDialogue δ → List StepAnswer × OpenDialogue δ
  | [], s => ([], s)
  | step :: steps, s =>
    match step.take dialect s with
    | (a, s) => (takeAll dialect steps s).map (a :: ·) id

/-- The dialogue with a database before its first step. -/
def OpenDialogue.start (db : δ) : OpenDialogue δ := ⟨⟨db, .empty, []⟩, false⟩

end

end SqlBinding.Session
