import SqlBinding.Session.Operations
import SqlBinding.Session.Executor

/-!
# Recorded connections

What a run asks of a connection, told by the calls that it makes. `Recorded` wraps a connection so
that its calls are kept with their answers. `Works` says without a log that a database is brought
from one state to another by statements alone, which is all that the operations of a session and
the requests that a body makes one after the other do to it (`sends_request`, `sends_body`).

A database that undoes transactions remembers what it held when the open one began (`Restores`);
statements without transaction control of their own leave that alone (`Works.begun`).
-/

set_option autoImplicit false

namespace SqlBinding

instance decidableEqOutcome {ε α : Type} [DecidableEq ε] [DecidableEq α] :
    DecidableEq (Except ε α)
  | .ok a, .ok b => decidable_of_iff (a = b) (by rw [Except.ok.injEq])
  | .error d, .error e => decidable_of_iff (d = e) (by rw [Except.error.injEq])
  | .ok _, .error _ => isFalse nofun
  | .error _, .ok _ => isFalse nofun

/-- A call made on a connection, with how it went. -/
inductive ConnectionEvent
  | query (sql : String) (answer : Except Error Unit)
  | execute (sql : String) (answer : Except Error Unit)
  | begin (answer : Except Error Unit)
  | commit (answer : Except Error Unit)
  | rollback (answer : Except Error Unit)
  | abandon
  deriving DecidableEq

/-- The statement that a call sends. -/
def ConnectionEvent.statement? : ConnectionEvent → Option String
  | query sql _ | execute sql _ => some sql
  | _ => none

/-- The statements sent by calls, in their order. -/
def sent (calls : List ConnectionEvent) : List String := calls.filterMap (·.statement?)

/-- Calls send the statements of the first of them and then those of the rest. -/
theorem sent_append (calls more : List ConnectionEvent) :
    sent (calls ++ more) = sent calls ++ sent more :=
  List.filterMap_append

/-- How a call went, whatever it gave. -/
def went {α : Type} (outcome : Except Error α) : Except Error Unit := outcome.map fun _ => ()

/-- A connection together with the calls made on it so far. -/
structure Recorded (δ : Type) where
  db : δ
  log : List ConnectionEvent

namespace Recorded

variable {δ κ ρ α : Type}

/-- What a call or a run comes to, with its log. -/
def ofRun (run : α × δ) (log : List ConnectionEvent) : α × Recorded δ :=
  (run.1, ⟨run.2, log⟩)

/-- Makes a call on the connection and records how it went. -/
def record (event : Except Error Unit → ConnectionEvent) (f : δ → Except Error α × δ)
    (r : Recorded δ) : Except Error α × Recorded δ :=
  ofRun (f r.db) (r.log ++ [event (went (f r.db).1)])

instance [Connection δ κ ρ] : Connection (Recorded δ) κ ρ where
  query sql := record (.query sql) (Executor.query sql)
  execute sql := record (.execute sql) (Executor.execute sql)
  release cursor r := { r with db := Executor.release cursor r.db }
  begin := record .begin Connection.begin
  commit := record .commit Connection.commit
  rollback := record .rollback Connection.rollback
  abandon r := ⟨Connection.abandon r.db, r.log ++ [.abandon]⟩

/-- What a call that gives nothing answers is how it went. -/
theorem record_unit (event : Except Error Unit → ConnectionEvent)
    (f : δ → Except Error Unit × δ) (db : δ) (log : List ConnectionEvent) :
    record event f ⟨db, log⟩ = ofRun (f db) (log ++ [event (f db).1]) := by
  have hwent : went (f db).1 = (f db).1 := by
    cases (f db).1 with
    | error e => rfl
    | ok u => rfl
  rw [record, hwent]

/-- The calls that a run makes from a state on. -/
def callsOf (run : Recorded δ → α × Recorded δ) (db : δ) : List ConnectionEvent :=
  (run ⟨db, []⟩).2.log

/-- The calls of a run are those that it adds to every log. -/
theorem callsOf_eq {run : α × δ} {recorded : Recorded δ → α × Recorded δ} {db : δ}
    {calls : List ConnectionEvent}
    (h : ∀ log, recorded ⟨db, log⟩ = ofRun run (log ++ calls)) : callsOf recorded db = calls :=
  congrArg (·.2.log) (h [])

variable [Connection δ κ ρ]

/-- A query of a recorded connection is logged with how it went. -/
theorem query_recorded (sql : String) (db : δ) (log : List ConnectionEvent) :
    Executor.query sql (⟨db, log⟩ : Recorded δ) =
      ofRun (Executor.query sql db) (log ++ [.query sql (went (Executor.query sql db).1)]) := rfl

/-- A statement of a recorded connection is logged with how it went. -/
theorem execute_recorded (sql : String) (db : δ) (log : List ConnectionEvent) :
    Executor.execute sql (⟨db, log⟩ : Recorded δ) =
      ofRun (Executor.execute sql db) (log ++ [.execute sql (went (Executor.execute sql db).1)]) :=
  rfl

/-- The beginning of a transaction is logged with how it went. -/
theorem begin_recorded (db : δ) (log : List ConnectionEvent) :
    Connection.begin (⟨db, log⟩ : Recorded δ) =
      ofRun (Connection.begin db) (log ++ [.begin (Connection.begin db).1]) :=
  record_unit .begin Connection.begin db log

/-- The end of a transaction is logged with how it went. -/
theorem commit_recorded (db : δ) (log : List ConnectionEvent) :
    Connection.commit (⟨db, log⟩ : Recorded δ) =
      ofRun (Connection.commit db) (log ++ [.commit (Connection.commit db).1]) :=
  record_unit .commit Connection.commit db log

/-- Rolling a transaction back is logged with how it went. -/
theorem rollback_recorded (db : δ) (log : List ConnectionEvent) :
    Connection.rollback (⟨db, log⟩ : Recorded δ) =
      ofRun (Connection.rollback db) (log ++ [.rollback (Connection.rollback db).1]) :=
  record_unit .rollback Connection.rollback db log

end Recorded

namespace Session

/-! ### Runs of statements -/

section Works

variable {δ κ ρ : Type} [Connection δ κ ρ]

/-- Statements bring a database from one state to another, by these calls; cursors are handed back
on the way. -/
inductive Works : δ → List ConnectionEvent → δ → Prop
  | nothing (db : δ) : Works db [] db
  | query (sql : String) (db : δ) :
      Works db [.query sql (went (Executor.query sql db).1)] (Executor.query sql db).2
  | execute (sql : String) (db : δ) :
      Works db [.execute sql (went (Executor.execute sql db).1)] (Executor.execute sql db).2
  | release (cursor : κ) (db : δ) : Works db [] (Executor.release cursor db)
  | append {db db₁ db₂ : δ} {calls more : List ConnectionEvent} (hcalls : Works db calls db₁)
      (hmore : Works db₁ more db₂) : Works db (calls ++ more) db₂

/-- A run comes to the same on the recorded connection as on the connection itself, and adds to the
log, whatever it is, the calls of statements by which it brings the database to its state. -/
def Sends {α : Type} (db : δ) (run : α × δ) (recorded : Recorded δ → α × Recorded δ) : Prop :=
  ∃ calls, (∀ log, recorded ⟨db, log⟩ = Recorded.ofRun run (log ++ calls)) ∧ Works db calls run.2

variable {α : Type} {calls : List ConnectionEvent} {db db₁ : δ} {run : α × δ}
  {recorded recorded₁ : Recorded δ → α × Recorded δ}

/-- Calls before a run that is recorded belong to the whole run. -/
theorem Sends.behind (hcalls : Works db calls db₁) (h : Sends db₁ run recorded₁)
    (hrecorded : ∀ log, recorded ⟨db, log⟩ = recorded₁ ⟨db₁, log ++ calls⟩) :
    Sends db run recorded := by
  obtain ⟨more, hmore, hworks⟩ := h
  refine ⟨calls ++ more, fun log => ?_, hcalls.append hworks⟩
  rw [hrecorded, hmore, List.append_assoc]

/-- A run that ends with some calls sends these. -/
theorem Sends.last (h : Works db calls run.2)
    (hrecorded : ∀ log, recorded ⟨db, log⟩ = Recorded.ofRun run (log ++ calls)) :
    Sends db run recorded :=
  ⟨calls, hrecorded, h⟩

/-- A run that leaves the connection alone sends nothing. -/
theorem Sends.nothing {a : α} (hrecorded : ∀ log, recorded ⟨db, log⟩ = (a, ⟨db, log⟩)) :
    Sends db (a, db) recorded :=
  .last (.nothing db) fun log => by rw [hrecorded, List.append_nil]; rfl

/-- A recorded run adds its calls to the log, whatever it is. -/
theorem Sends.recorded_eq (h : Sends db run recorded) (log : List ConnectionEvent) :
    recorded ⟨db, log⟩ = Recorded.ofRun run (log ++ Recorded.callsOf recorded db) := by
  obtain ⟨calls, hrecorded, -⟩ := h
  rw [Recorded.callsOf_eq hrecorded, hrecorded]

/-- The calls of a run bring the database to the state that it leaves. -/
theorem Sends.works (h : Sends db run recorded) :
    Works db (Recorded.callsOf recorded db) run.2 := by
  obtain ⟨calls, hrecorded, hworks⟩ := h
  rwa [Recorded.callsOf_eq hrecorded]

/-- What is made of the outcome of a run sends nothing more. -/
theorem Sends.map {β : Type} (f : α → β) (h : Sends db run recorded) :
    Sends db (run.map f id) fun r => (recorded r).map f id := by
  obtain ⟨calls, hrecorded, hcalls⟩ := h
  exact .last hcalls fun log => by rw [hrecorded]; rfl

/-- Statements make no other calls. -/
theorem Works.isSome_statement? (h : Works db calls db₁) :
    ∀ call ∈ calls, call.statement?.isSome := by
  induction h with
  | nothing | release => simp
  | query sql db => simp [ConnectionEvent.statement?]
  | execute sql db => simp [ConnectionEvent.statement?]
  | append _ _ ihcalls ihmore =>
    intro call hcall
    rcases List.mem_append.1 hcall with hcall | hcall
    · exact ihcalls call hcall
    · exact ihmore call hcall

/-- What is assumed of a database whose transactions can be undone. It holds contents, and in an
open transaction it remembers the contents with which the transaction began: `begun c db` says that
they were `c`. Statements that are `plain`, which means without transaction control of their own,
leave them alone, and rolling back, if it succeeds, gives the database these contents again. -/
structure Restores {γ : Type} (contents : δ → γ) (plain : String → Prop)
    (begun : γ → δ → Prop) : Prop where
  begin (db : δ) (h : (Connection.begin db).1 = .ok ()) :
    begun (contents db) (Connection.begin db).2
  query (c : γ) (db : δ) (sql : String) (hplain : plain sql) (h : begun c db) :
    begun c (Executor.query sql db).2
  execute (c : γ) (db : δ) (sql : String) (hplain : plain sql) (h : begun c db) :
    begun c (Executor.execute sql db).2
  release (c : γ) (db : δ) (cursor : κ) (h : begun c db) : begun c (Executor.release cursor db)
  rollback (c : γ) (db : δ) (h : begun c db) (hrollback : (Connection.rollback db).1 = .ok ()) :
    contents (Connection.rollback db).2 = c

/-- Statements leave alone what the open transaction goes back to. -/
theorem Works.begun {γ : Type} {contents : δ → γ} {plain : String → Prop} {begun : γ → δ → Prop}
    (hdb : Restores contents plain begun) (h : Works db calls db₁)
    (hplain : ∀ sql ∈ sent calls, plain sql) {c : γ} (hbegun : begun c db) : begun c db₁ := by
  induction h with
  | nothing => exact hbegun
  | query sql db => exact hdb.query c db sql (hplain sql (List.mem_singleton_self sql)) hbegun
  | execute sql db => exact hdb.execute c db sql (hplain sql (List.mem_singleton_self sql)) hbegun
  | release cursor db => exact hdb.release c db cursor hbegun
  | append _ _ ihcalls ihmore =>
    simp only [sent_append, List.mem_append] at hplain
    have hmiddle := ihcalls (fun sql hsql => hplain sql (.inl hsql)) hbegun
    exact ihmore (fun sql hsql => hplain sql (.inr hsql)) hmiddle

end Works

end Session

end SqlBinding
