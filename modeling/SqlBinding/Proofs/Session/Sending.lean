import SqlBinding.Proofs.Outcome
import SqlBinding.Proofs.Session.Bodies

/-!
# Sending what was built

A request for which a statement is built sends that statement and nothing else, and it sends
nothing if the statement cannot be built (`nothing_sent_unless_built`). `Request.built?` says what
the statement is, and `Request.refused` what is answered without one.
-/

set_option autoImplicit false

namespace SqlBinding

/-- The calls on whatever statements can be sent to are recorded, also where there are no
transactions. -/
instance (priority := low) Recorded.executor {δ κ ρ : Type} [Executor δ κ ρ] :
    Executor (Recorded δ) κ ρ where
  query sql := record (.query sql) (Executor.query sql)
  execute sql := record (.execute sql) (Executor.execute sql)
  release cursor r := { r with db := Executor.release cursor r.db }

namespace Session

open Recorded (callsOf ofRun)

variable {δ κ ρ α : Type}

namespace Request

/-- What comes of building the statement of a request. For requests that send statements as they
are, nothing is built. -/
def built? (dialect : Dialect) : Request → Option (Except Error (List Char))
  | query _ template arguments | queryInto _ _ template arguments | get _ template arguments
  | exec template arguments => some (Statement.format dialect template arguments)
  | insertMany template rows => some (Statement.batch dialect template rows)
  | updateMany template rows =>
    some (if rows = [] then .error .emptyArrayArgument
      else (rows.mapM (Statement.format dialect template)).map (·.flatMap (· ++ [';'])))
  | execReturning field template arguments =>
    some (if dialect.supportsReturning then
        (Statement.format dialect template arguments).map (Statement.withReturning · field)
      else .error (.unsupportedByDialect .returning dialect))
  | execMany _ | execute _ | cursor _ _ => none

/-- The answer to a request without a statement. To those that read, an empty list among the
arguments stands for no rows. -/
def refused (ρ : Type) (e : Error) : (request : Request) → request.Answer ρ
  | query _ _ _ => if e = .emptyArrayArgument then .ok [] else .error e
  | queryInto _ dest _ _ => (if e = .emptyArrayArgument then .ok () else .error e, dest)
  | get _ _ _ => .error (if e = .emptyArrayArgument then .emptyResult else e)
  | exec _ _ | insertMany _ _ | updateMany _ _ | execReturning _ _ _ => .error e
  | execMany _ | execute _ | cursor _ _ => .error e

/-- The call by which a request sends its statement: those that read rows send a query. -/
def call : Request → String → Except Error Unit → ConnectionEvent
  | query _ _ _ | queryInto _ _ _ _ | get _ _ _ | execReturning _ _ _ | cursor _ _ => .query
  | exec _ _ | insertMany _ _ | updateMany _ _ | execMany _ | execute _ => .execute

end Request

/-- How a run goes for which a statement was to be built: if it could not be, the run comes to an
outcome and asks nothing of the database; otherwise the only call is the one with the statement. -/
def SendsBuilt (db : δ) (built : Except Error (List Char)) (refused : Error → α)
    (call : String → Except Error Unit → ConnectionEvent) (run : α × δ)
    (recorded : Recorded δ → α × Recorded δ) : Prop :=
  match built with
  | .error e => run = (refused e, db) ∧ ∀ log, recorded ⟨db, log⟩ = ofRun run log
  | .ok sql => ∃ answer, ∀ log,
      recorded ⟨db, log⟩ = ofRun run (log ++ [call (String.ofList sql) answer])

/-- What is made of the outcome of a run changes nothing about its calls. -/
theorem SendsBuilt.map {β : Type} {db : δ} {built : Except Error (List Char)}
    {refused : Error → α} {call : String → Except Error Unit → ConnectionEvent} {run : α × δ}
    {recorded : Recorded δ → α × Recorded δ} (h : SendsBuilt db built refused call run recorded)
    (f : α → β) :
    SendsBuilt db built (fun e => f (refused e)) call (run.map f id)
      fun r => (recorded r).map f id := by
  cases built with
  | error e =>
    obtain ⟨hrun, hrecorded⟩ := h
    refine ⟨by rw [hrun]; rfl, fun log => ?_⟩
    show (recorded ⟨db, log⟩).map f id = _
    rw [hrecorded]
    rfl
  | ok sql =>
    obtain ⟨answer, hrecorded⟩ := h
    refine ⟨answer, fun log => ?_⟩
    show (recorded ⟨db, log⟩).map f id = _
    rw [hrecorded]
    rfl

/-- Runs with the statement that was built, or comes to an outcome without one. -/
def whenBuilt (built : Except Error (List Char)) (refused : Error → α)
    (run : List Char → δ → α × δ) (db : δ) : α × δ :=
  match built with
  | .error e => (refused e, db)
  | .ok sql => run sql db

/-- It is enough to look at the statements that could be built. -/
theorem sendsBuilt_whenBuilt {db : δ} {built : Except Error (List Char)} {refused : Error → α}
    {call : String → Except Error Unit → ConnectionEvent} {run : List Char → δ → α × δ}
    {recorded : List Char → Recorded δ → α × Recorded δ}
    (h : ∀ sql, SendsBuilt db (.ok sql) refused call (run sql db) (recorded sql)) :
    SendsBuilt db built refused call (whenBuilt built refused run db)
      (whenBuilt built refused recorded) := by
  cases built with
  | error e => exact ⟨rfl, fun _ => rfl⟩
  | ok sql => exact h sql

section

variable [Executor δ κ ρ]

/-- A statement read through a cursor is sent as a query, and no other is. -/
theorem sendsBuilt_withCursor (refused : Error → Except Error α) (use : κ → Except Error α × κ)
    (sql : List Char) (db : δ) :
    SendsBuilt db (.ok sql) refused .query (withCursor use sql db) (withCursor use sql) := by
  refine ⟨went (Executor.query (String.ofList sql) db).1, fun log => ?_⟩
  have hquery : Executor.query (String.ofList sql) (⟨db, log⟩ : Recorded δ) =
      ofRun (Executor.query (String.ofList sql) db)
        (log ++ [.query (String.ofList sql) (went (Executor.query (String.ofList sql) db).1)]) :=
    rfl
  unfold withCursor
  rw [hquery]
  rcases Executor.query (String.ofList sql) db with ⟨e | cursor, db₁⟩
  · rfl
  · rfl

/-- A statement is sent in one call, and no other is. -/
theorem sendsBuilt_send {refused : Error → Except Error (Affected ρ)} (dialect : Dialect)
    (sql : List Char) (db : δ) :
    SendsBuilt db (.ok sql) refused .execute (send dialect sql db) (send dialect sql) := by
  refine ⟨went (Executor.execute (String.ofList sql) db).1, fun log => ?_⟩
  have hexecute : Executor.execute (String.ofList sql) (⟨db, log⟩ : Recorded δ) =
      ofRun (Executor.execute (String.ofList sql) db)
        (log ++ [.execute (String.ofList sql)
          (went (Executor.execute (String.ofList sql) db).1)]) := rfl
  unfold send
  rw [hexecute]
  rcases Executor.execute (String.ofList sql) db with ⟨e | report, db₁⟩
  · rfl
  · rfl

variable [Cursor κ]

/-- Querying rows runs with the statement that was built. -/
theorem query_eq (dialect : Dialect) (d : Destination) (template : List Char)
    (arguments : List Argument) :
    query (δ := δ) dialect d template arguments =
      whenBuilt (Statement.format dialect template arguments)
        (fun e => if e = .emptyArrayArgument then .ok [] else .error e)
        (withCursor (Fetch.all d)) := by
  funext db
  unfold query whenBuilt
  rcases Statement.format dialect template arguments with e | sql
  · cases e <;> rfl
  · rfl

/-- Querying one row runs with the statement that was built. -/
theorem get_eq (dialect : Dialect) (d : Destination) (template : List Char)
    (arguments : List Argument) :
    get (δ := δ) dialect d template arguments =
      whenBuilt (Statement.format dialect template arguments)
        (fun e => .error (if e = .emptyArrayArgument then .emptyResult else e))
        (withCursor (Fetch.one d)) := by
  funext db
  unfold get whenBuilt
  rcases Statement.format dialect template arguments with e | sql
  · cases e <;> rfl
  · rfl

/-- A statement that returns its key runs with the text that was built. -/
theorem execReturning_eq (dialect : Dialect) (field template : List Char)
    (arguments : List Argument) :
    execReturning (δ := δ) dialect field template arguments =
      whenBuilt
        (if dialect.supportsReturning then
          (Statement.format dialect template arguments).map (Statement.withReturning · field)
        else .error (.unsupportedByDialect .returning dialect))
        .error
        (fun sql db => (withCursor (Fetch.first idColumn) sql db).map
          (Except.map (Affected.returning · dialect)) id) := by
  funext db
  unfold execReturning whenBuilt
  by_cases hreturning : dialect.supportsReturning
  · rw [if_pos hreturning, if_pos hreturning]
    rcases Statement.format dialect template arguments with e | sql
    · rfl
    · dsimp only [Except.map]
      rcases withCursor (Fetch.first idColumn) (Statement.withReturning sql field) db with
        ⟨e | id, db₁⟩
      · rfl
      · rfl
  · rw [if_neg hreturning, if_neg hreturning]

end

/-! ### Several updates -/

/-- Each row is formatted by itself, with a semicolon behind it. -/
theorem formatAll_eq (dialect : Dialect) (template : List Char) (rows : List (List Argument)) :
    Statement.formatAll dialect template rows =
      (rows.mapM (Statement.format dialect template)).map (·.flatMap (· ++ [';'])) := by
  induction rows with
  | nil => rfl
  | cons row rows ih =>
    rw [Statement.formatAll, List.mapM_cons, ih]
    rcases Statement.format dialect template row with e | text
    · rfl
    · rcases rows.mapM (Statement.format dialect template) with e | texts
      · rfl
      · rfl

/-- Updates are formatted one by one, unless there are none. -/
theorem updates_eq (dialect : Dialect) (template : List Char) (rows : List (List Argument)) :
    updates dialect template rows =
      if rows = [] then .error .emptyArrayArgument
      else (rows.mapM (Statement.format dialect template)).map (·.flatMap (· ++ [';'])) := by
  rw [updates, formatAll_eq]
  cases rows with
  | nil => rfl
  | cons row rows => rfl

/-! ### Requests -/

section

variable [Executor δ κ ρ] [Cursor κ] [ToString κ]

/-- A request for which a statement is built goes as the statement does. -/
theorem sendsBuilt_request (dialect : Dialect) (request : Request)
    {built : Except Error (List Char)} (h : request.built? dialect = some built) (db : δ) :
    SendsBuilt db built (request.refused ρ) request.call (request.run dialect db)
      (request.run dialect) := by
  have hquery (d : Destination) (template : List Char) (arguments : List Argument) :
      SendsBuilt db (Statement.format dialect template arguments)
        (fun e => if e = .emptyArrayArgument then .ok [] else .error e) .query
        (query dialect d template arguments db) (query dialect d template arguments) := by
    rw [query_eq, query_eq]
    exact sendsBuilt_whenBuilt fun sql => sendsBuilt_withCursor _ (Fetch.all d) sql db
  cases request with
  | query d template arguments =>
    cases h
    exact hquery d template arguments
  | queryInto d dest template arguments =>
    cases h
    -- The rows are put into the destination behind the query, also where it was not sent.
    have hrefused : (Request.queryInto d dest template arguments).refused ρ =
        fun e => Fetch.appended dest (if e = .emptyArrayArgument then .ok [] else .error e) := by
      funext e
      by_cases he : e = .emptyArrayArgument
      · simp [Request.refused, Fetch.appended, he]
      · simp [Request.refused, Fetch.appended, he]
    rw [hrefused]
    have hinto := (hquery d template arguments).map (Fetch.appended dest)
    simp only [← queryInto_eq] at hinto
    exact hinto
  | get d template arguments =>
    cases h
    change SendsBuilt _ _ _ _ (get dialect d template arguments db)
      (get dialect d template arguments)
    rw [get_eq, get_eq]
    exact sendsBuilt_whenBuilt fun sql => sendsBuilt_withCursor _ (Fetch.one d) sql db
  | exec template arguments =>
    cases h
    exact sendsBuilt_whenBuilt fun sql => sendsBuilt_send dialect sql db
  | insertMany template rows =>
    cases h
    exact sendsBuilt_whenBuilt fun sql => sendsBuilt_send dialect sql db
  | updateMany template rows =>
    cases h
    rw [← updates_eq]
    exact sendsBuilt_whenBuilt fun sql => sendsBuilt_send dialect sql db
  | execReturning field template arguments =>
    cases h
    change SendsBuilt _ _ _ _ (execReturning dialect field template arguments db)
      (execReturning dialect field template arguments)
    rw [execReturning_eq, execReturning_eq]
    exact sendsBuilt_whenBuilt fun sql =>
      (sendsBuilt_withCursor .error (Fetch.first idColumn) sql db).map
        (Except.map (Affected.returning · dialect))
  | execMany | execute | cursor => cases h

/-- The statements of several updates are those that the updates send one by one. -/
theorem sent_update_of_updates {dialect : Dialect} {template : List Char}
    {rows : List (List Argument)} {texts : List (List Char)}
    (h : rows.mapM (Statement.format dialect template) = .ok texts) :
    List.Forall₂ (fun row text => ∀ db : δ,
      sent (callsOf ((Request.exec template row).run dialect) db) = [String.ofList text])
      rows texts := by
  refine (Outcome.mapM_eq_ok_iff.1 h).imp fun row text htext db => ?_
  obtain ⟨answer, hrecorded⟩ :=
    sendsBuilt_request dialect (.exec template row) (congrArg some htext) db
  rw [Recorded.callsOf_eq hrecorded]
  rfl

/-- If the statement of a request cannot be built, nothing is asked of the database and the answer
says why. Otherwise the request makes exactly one call, which sends the statement; that of several
updates is made of the statements that each of them sends alone, with a semicolon behind each. -/
theorem nothing_sent_unless_built (dialect : Dialect) (request : Request)
    {built : Except Error (List Char)} (h : request.built? dialect = some built) :
    (∀ e, built = .error e → ∀ db : δ,
      request.run dialect db = (request.refused ρ e, db) ∧
        ∀ log, request.run dialect (⟨db, log⟩ : Recorded δ) =
          (request.refused ρ e, ⟨db, log⟩)) ∧
      (∀ sql, built = .ok sql → ∀ db : δ, ∃ answer, ∀ log,
        request.run dialect (⟨db, log⟩ : Recorded δ) =
          ofRun (request.run dialect db) (log ++ [request.call (String.ofList sql) answer])) ∧
      ∀ template rows sql, request = .updateMany template rows → built = .ok sql →
        ∃ texts, sql = texts.flatMap (· ++ [';']) ∧
          List.Forall₂ (fun row text => ∀ db : δ,
            sent (callsOf ((Request.exec template row).run dialect) db) = [String.ofList text])
            rows texts := by
  refine ⟨?_, ?_, ?_⟩
  · rintro e rfl db
    obtain ⟨hrun, hrecorded⟩ := sendsBuilt_request dialect request h db
    refine ⟨hrun, fun log => ?_⟩
    rw [hrecorded, hrun]
    rfl
  · rintro sql rfl db
    exact sendsBuilt_request dialect request h db
  · rintro template rows sql rfl rfl
    rw [Request.built?, Option.some.injEq] at h
    split at h
    · cases h
    · obtain ⟨texts, htexts, hsql⟩ := Outcome.map_eq_ok_iff.1 h
      exact ⟨texts, hsql.symm, sent_update_of_updates htexts⟩

end

/-- Two deletions by lists of names, sent at once. -/
def deletions (names : List Argument) : Request :=
  .updateMany "DELETE FROM person WHERE name IN ?".toList
    [[.list [.text "Ann"]], [.list names]]

/-- Neither of the deletions is sent if the second list is empty. -/
theorem deletions_sent_if_listed :
    (deletions []).built? .sqlite = some (.error .emptyArrayArgument) ∧
      (∀ db : Scripted.Database,
        (deletions []).run .sqlite db = (.error .emptyArrayArgument, db)) ∧
      (deletions [.text "Bob"]).built? .sqlite = some (.ok
        ("DELETE FROM person WHERE name IN ('Ann');" ++
          "DELETE FROM person WHERE name IN ('Bob');").toList) ∧
      ∀ db : Scripted.Database, sent (callsOf ((deletions [.text "Bob"]).run .sqlite) db) =
        ["DELETE FROM person WHERE name IN ('Ann');DELETE FROM person WHERE name IN ('Bob');"] := by
  have hrefused : (deletions []).built? .sqlite = some (.error .emptyArrayArgument) := rfl
  have hbuilt : (deletions [.text "Bob"]).built? .sqlite = some (.ok
      ("DELETE FROM person WHERE name IN ('Ann');" ++
        "DELETE FROM person WHERE name IN ('Bob');").toList) := rfl
  refine ⟨hrefused, fun db => ?_, hbuilt, fun db => ?_⟩
  · exact ((nothing_sent_unless_built .sqlite (deletions []) hrefused).1 _ rfl db).1
  · obtain ⟨answer, hrecorded⟩ :=
      (nothing_sent_unless_built .sqlite (deletions [.text "Bob"]) hbuilt).2.1 _ rfl db
    rw [Recorded.callsOf_eq hrecorded]
    rfl

end Session

end SqlBinding
