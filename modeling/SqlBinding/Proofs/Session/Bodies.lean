import SqlBinding.Proofs.Session.Appending
import SqlBinding.Proofs.Session.Recording
import SqlBinding.Session.Dialogue

/-!
# Bodies of transactions

What runs inside a transaction: session operations, one after the other, each of which may depend on
the answers to those before it, so that a failure may be handled or passed on. Whatever a body does
comes down to statements (`sends_body`); it neither begins nor ends a transaction.
-/

set_option autoImplicit false

namespace SqlBinding.Session

/-- What can be asked of a session. -/
inductive Request
  | query (d : Destination) (template : List Char) (arguments : List Argument)
  | queryInto (d : Destination) (dest : List d.Val) (template : List Char)
      (arguments : List Argument)
  | get (d : Destination) (template : List Char) (arguments : List Argument)
  /-- Any statement that returns no rows, an insertion, an update or a deletion. -/
  | exec (template : List Char) (arguments : List Argument)
  | insertMany (template : List Char) (rows : List (List Argument))
  | updateMany (template : List Char) (rows : List (List Argument))
  | execReturning (field template : List Char) (arguments : List Argument)
  | execMany (statements : List String)
  /-- A statement sent as it is. -/
  | execute (sql : String)
  /-- A query sent as it is, whose cursor is used directly. -/
  | cursor (sql : String) (questions : List CursorQuestion)

/-- What a request is answered by, where reports are `ρ`. -/
@[reducible] def Request.Answer (ρ : Type) : Request → Type
  | query d _ _ => Except Error (List d.Val)
  | queryInto d _ _ _ => Except Error Unit × List d.Val
  | get d _ _ => Except Error d.Val
  | exec _ _ | insertMany _ _ | updateMany _ _ | execReturning _ _ _ => Except Error (Affected ρ)
  | execMany _ => Except Error Unit
  | execute _ => Except Error ρ
  | cursor _ _ => Except Error (List CursorAnswer)

/-- What is done in an open transaction: it is over, or asks for something and goes on as the answer
demands. -/
inductive Body (ρ α : Type)
  | done (outcome : Except Error α)
  | ask (request : Request) (rest : request.Answer ρ → Body ρ α)

variable {δ κ ρ α : Type}

/-- Does in an open transaction what is asked for. -/
def Request.run [Executor δ κ ρ] [Cursor κ] [ToString κ] (dialect : Dialect) :
    (request : Request) → δ → request.Answer ρ × δ
  | query d template arguments, db => Session.query dialect d template arguments db
  | queryInto d dest template arguments, db =>
    Session.queryInto dialect d dest template arguments db
  | get d template arguments, db => Session.get dialect d template arguments db
  | exec template arguments, db => Session.exec dialect template arguments db
  | insertMany template rows, db => Session.insertMany dialect template rows db
  | updateMany template rows, db => Session.updateMany dialect template rows db
  | execReturning field template arguments, db =>
    Session.execReturning dialect field template arguments db
  | execMany statements, db => runEach statements db
  | execute sql, db => Executor.execute sql db
  | cursor sql questions, db =>
    withCursor (fun c => (askAll questions c).map .ok id) sql.toList db

/-- Runs a body in an open transaction. -/
def Body.run [Executor δ κ ρ] [Cursor κ] [ToString κ] (dialect : Dialect) :
    Body ρ α → δ → Except Error α × δ
  | done outcome, db => (outcome, db)
  | ask request rest, db =>
    match request.run dialect db with
    | (answer, db) => (rest answer).run dialect db

section

variable [Connection δ κ ρ]

/-- A query and what is done with its cursor send the query. -/
theorem sends_withCursor (use : κ → Except Error α × κ) (sql : List Char) (db : δ) :
    Sends db (withCursor use sql db) (withCursor use sql) := by
  have hquery := Works.query (String.ofList sql) db
  have hrecorded := Recorded.query_recorded (String.ofList sql) db
  unfold withCursor
  generalize Executor.query (String.ofList sql) db = answer at hquery hrecorded ⊢
  rcases answer with ⟨e | cursor, db₁⟩
  · exact .last hquery fun log => by rw [hrecorded]; rfl
  · exact .last (hquery.append (.release _ db₁)) fun log => by rw [hrecorded]; rfl

/-- A statement is sent in one call. -/
theorem sends_send (dialect : Dialect) (sql : List Char) (db : δ) :
    Sends db (send dialect sql db) (send dialect sql) := by
  have hexecute := Works.execute (String.ofList sql) db
  have hrecorded := Recorded.execute_recorded (String.ofList sql) db
  unfold send
  generalize Executor.execute (String.ofList sql) db = answer at hexecute hrecorded ⊢
  rcases answer with ⟨e | report, db₁⟩
  · exact .last hexecute fun log => by rw [hrecorded]; rfl
  · exact .last hexecute fun log => by rw [hrecorded]; rfl

/-- A statement is sent if it could be built. -/
theorem sends_built (dialect : Dialect) (built : Except Error (List Char)) (db : δ) :
    Sends db
      (match built with
        | .error e => (.error e, db)
        | .ok sql => send dialect sql db)
      (fun r => match built with
        | .error e => (.error e, r)
        | .ok sql => send dialect sql r) := by
  cases built with
  | error e => exact .nothing fun _ => rfl
  | ok sql => exact sends_send dialect sql db

/-- Statements that run one after the other are sent one after the other. -/
theorem sends_runEach (statements : List String) (db : δ) :
    Sends db (runEach statements db) (runEach statements) := by
  induction statements generalizing db with
  | nil => exact .nothing fun _ => rfl
  | cons sql rest ih =>
    have hexecute := Works.execute sql db
    have hrecorded := Recorded.execute_recorded sql db
    unfold runEach
    generalize Executor.execute sql db = answer at hexecute hrecorded ⊢
    rcases answer with ⟨e | report, db₁⟩
    · exact .last hexecute fun log => by rw [runEach, hrecorded]; rfl
    · exact .behind hexecute (ih db₁) fun log => by rw [runEach, hrecorded]; rfl

variable [Cursor κ]

/-- Querying rows sends the query, if there is one. -/
theorem sends_query (dialect : Dialect) (d : Destination) (template : List Char)
    (arguments : List Argument) (db : δ) :
    Sends db (query dialect d template arguments db) (query dialect d template arguments) := by
  unfold query
  split
  · exact .nothing fun _ => rfl
  · exact .nothing fun _ => rfl
  · exact sends_withCursor _ _ db

/-- Querying one row sends the query, if there is one. -/
theorem sends_get (dialect : Dialect) (d : Destination) (template : List Char)
    (arguments : List Argument) (db : δ) :
    Sends db (get dialect d template arguments db) (get dialect d template arguments) := by
  unfold get
  split
  · exact .nothing fun _ => rfl
  · exact .nothing fun _ => rfl
  · exact sends_withCursor _ _ db

/-- A statement that returns its key is sent as a query. -/
theorem sends_execReturning (dialect : Dialect) (field template : List Char)
    (arguments : List Argument) (db : δ) :
    Sends db (execReturning dialect field template arguments db)
      (execReturning dialect field template arguments) := by
  unfold execReturning
  split
  · split
    · exact .nothing fun _ => rfl
    · rename_i sql _
      obtain ⟨calls, hrecorded, hcalls⟩ :=
        sends_withCursor (Fetch.first idColumn) (Statement.withReturning sql field) db
      generalize withCursor (Fetch.first idColumn) (Statement.withReturning sql field) db =
        answer at hrecorded hcalls ⊢
      rcases answer with ⟨e | id, db₁⟩
      · exact .last hcalls fun log => by rw [hrecorded]; rfl
      · exact .last hcalls fun log => by rw [hrecorded]; rfl
  · exact .nothing fun _ => rfl

/-- Querying rows into a list sends the query, if there is one. -/
theorem sends_queryInto (dialect : Dialect) (d : Destination) (dest : List d.Val)
    (template : List Char) (arguments : List Argument) (db : δ) :
    Sends db (queryInto dialect d dest template arguments db)
      (queryInto dialect d dest template arguments) := by
  have h := (sends_query dialect d template arguments db).map (Fetch.appended dest)
  simp only [← queryInto_eq] at h
  exact h

variable [ToString κ]

/-- Whatever is asked for is sent by calls that are recorded. -/
theorem sends_request (dialect : Dialect) (request : Request) (db : δ) :
    Sends db (request.run dialect db) (request.run dialect) := by
  cases request with
  | query d template arguments => exact sends_query dialect d template arguments db
  | queryInto d dest template arguments =>
    exact sends_queryInto dialect d dest template arguments db
  | get d template arguments => exact sends_get dialect d template arguments db
  | exec template arguments =>
    exact sends_built dialect (Statement.format dialect template arguments) db
  | insertMany template rows => exact sends_built dialect (Statement.batch dialect template rows) db
  | updateMany template rows => exact sends_built dialect (updates dialect template rows) db
  | execReturning field template arguments =>
    exact sends_execReturning dialect field template arguments db
  | execMany statements => exact sends_runEach statements db
  | execute sql => exact .last (.execute sql db) (Recorded.execute_recorded sql db)
  | cursor sql questions =>
    exact sends_withCursor (fun c => (askAll questions c).map .ok id) sql.toList db

/-- A body does nothing to the database but by statements. -/
theorem sends_body (dialect : Dialect) (body : Body ρ α) (db : δ) :
    Sends db (body.run dialect db) (body.run dialect) := by
  induction body generalizing db with
  | done outcome => exact .nothing fun _ => rfl
  | ask request rest ih =>
    obtain ⟨calls, hrecorded, hcalls⟩ := sends_request dialect request db
    apply Sends.behind hcalls (ih _ _)
    intro log
    rw [Body.run, hrecorded]
    rfl

end

end SqlBinding.Session
