import SqlBinding.Proofs.Session.Bodies
import SqlBinding.Proofs.Sqlite.Rollback

/-!
# Transactions end once

A transaction that has begun runs its body and is then either committed or rolled back, as the body
demands (`Transacted`). The calls are read off the log of a recorded connection. If the database
undoes transactions, then one that is rolled back leaves no trace in its contents, whatever its body
did (`Transacted.contents_eq`).
-/

set_option autoImplicit false

namespace SqlBinding.Session

open Recorded (callsOf ofRun)
open Sqlite (Store)

section

variable {δ κ ρ α : Type} [Connection δ κ ρ]

/-- How a transaction with a body goes from a state on: its calls, and its outcome with the state it
leaves. The calls of the body are `work`, by the state in which it starts. -/
inductive Transacted (body : δ → Except Error α × δ) (work : δ → List ConnectionEvent) (db : δ) :
    List ConnectionEvent → Except Error α × δ → Prop
  | refused {e : Error} {db₁ : δ} (hbegin : Connection.begin db = (.error e, db₁)) :
      Transacted body work db [.begin (.error e)] (.error e, db₁)
  | committed {a : α} {answer : Except Error Unit} {db₁ db₂ db₃ : δ}
      (hbegin : Connection.begin db = (.ok (), db₁)) (hbody : body db₁ = (.ok a, db₂))
      (hcommit : Connection.commit db₂ = (answer, db₃)) :
      Transacted body work db (.begin (.ok ()) :: work db₁ ++ [.commit answer])
        (answer.map fun _ => a, db₃)
  | rolledBack {e : Error} {answer : Except Error Unit} {db₁ db₂ db₃ : δ}
      (hbegin : Connection.begin db = (.ok (), db₁)) (hbody : body db₁ = (.error e, db₂))
      (hrollback : Connection.rollback db₂ = (answer, db₃)) :
      Transacted body work db (.begin (.ok ()) :: work db₁ ++ [.rollback answer]) (.error e, db₃)

variable {body : δ → Except Error α × δ} {recorded : Recorded δ → Except Error α × Recorded δ}

/-- A transaction that does not begin comes to the error of beginning. -/
theorem transaction_refused {e : Error} {db db₁ : δ}
    (hbegin : Connection.begin db = (.error e, db₁)) : transaction body db = (.error e, db₁) := by
  rw [transaction, hbegin]

/-- A transaction that has begun is concluded as its body went. -/
theorem transaction_begun {db db₁ : δ} (hbegin : Connection.begin db = (.ok (), db₁)) :
    transaction body db = conclude (body db₁).1 (body db₁).2 := by
  rw [transaction, hbegin]

/-- A body that succeeds is concluded by committing, which may fail. -/
theorem conclude_ok (a : α) (db : δ) :
    conclude (.ok a) db =
      ((Connection.commit db).1.map fun _ => a, (Connection.commit db).2) := by
  unfold conclude
  rcases Connection.commit db with ⟨e | u, db₁⟩
  · rfl
  · rfl

/-- Concluding a body that succeeds is one commit. -/
theorem conclude_ok_recorded (a : α) (db : δ) (log : List ConnectionEvent) :
    conclude (.ok a) (⟨db, log⟩ : Recorded δ) =
      ofRun (conclude (.ok a) db) (log ++ [.commit (Connection.commit db).1]) := by
  rw [conclude_ok, conclude_ok, Recorded.commit_recorded]
  rfl

/-- Concluding a body that fails is one rollback. -/
theorem conclude_error_recorded (e : Error) (db : δ) (log : List ConnectionEvent) :
    conclude (.error e : Except Error α) (⟨db, log⟩ : Recorded δ) =
      ofRun (conclude (.error e) db) (log ++ [.rollback (Connection.rollback db).1]) := by
  unfold conclude
  rw [Recorded.rollback_recorded]
  rfl

/-- What a transaction does, given that its body only sends statements. -/
theorem transaction_transacted (hbody : ∀ db, Sends db (body db) recorded) (db : δ) :
    transaction recorded ⟨db, []⟩ =
        ofRun (transaction body db) (callsOf (transaction recorded) db) ∧
      Transacted body (callsOf recorded) db (callsOf (transaction recorded) db)
        (transaction body db) := by
  suffices h : ∃ calls,
      (∀ log, transaction recorded ⟨db, log⟩ = ofRun (transaction body db) (log ++ calls)) ∧
        Transacted body (callsOf recorded) db calls (transaction body db) by
    obtain ⟨calls, hrecorded, htransacted⟩ := h
    rw [Recorded.callsOf_eq hrecorded]
    exact ⟨hrecorded [], htransacted⟩
  have hbegin := Recorded.begin_recorded db
  rcases hdb₁ : Connection.begin db with ⟨e | u, db₁⟩
  · rw [hdb₁] at hbegin
    rw [transaction_refused hdb₁]
    exact ⟨_, fun log => transaction_refused (hbegin log), .refused hdb₁⟩
  · rw [hdb₁] at hbegin
    have hwork := (hbody db₁).recorded_eq
    have hrun (log : List ConnectionEvent) :
        transaction recorded ⟨db, log⟩ =
          conclude (body db₁).1
            ⟨(body db₁).2, log ++ [.begin (.ok ())] ++ callsOf recorded db₁⟩ := by
      rw [transaction_begun (hbegin log), hwork]
      rfl
    simp only [hrun, transaction_begun hdb₁]
    rcases hdb₂ : body db₁ with ⟨e | a, db₂⟩
    · refine ⟨_, fun log => ?_, .rolledBack hdb₁ hdb₂ rfl⟩
      rw [conclude_error_recorded, List.append_assoc, List.append_assoc]
      rfl
    · have hcommitted : Transacted body (callsOf recorded) db
          (.begin (.ok ()) :: callsOf recorded db₁ ++ [.commit (Connection.commit db₂).1])
          (conclude (.ok a) db₂) := by
        rw [conclude_ok]
        exact .committed hdb₁ hdb₂ rfl
      refine ⟨_, fun log => ?_, hcommitted⟩
      rw [conclude_ok_recorded, List.append_assoc, List.append_assoc]
      rfl

/-- A transaction that is rolled back gives a database that undoes transactions the contents it had
before. -/
theorem Transacted.contents_eq {γ : Type} {contents : δ → γ} {plain : String → Prop}
    {begun : γ → δ → Prop} (hdb : Restores contents plain begun)
    {work : δ → List ConnectionEvent} {db : δ} {calls : List ConnectionEvent}
    {run : Except Error α × δ} (h : Transacted body work db calls run)
    (hwork : ∀ db₁, Works db₁ (work db₁) (body db₁).2)
    (hplain : ∀ sql ∈ sent (work (Connection.begin db).2), plain sql)
    (hundone : .rollback (.ok ()) ∈ calls) : contents run.2 = contents db := by
  have hstatements (db₁ : δ) : ConnectionEvent.rollback (.ok ()) ∉ work db₁ := by
    intro hmem
    have hsome := (hwork db₁).isSome_statement? _ hmem
    simp [ConnectionEvent.statement?] at hsome
  cases h with
  | refused => simp at hundone
  | committed hbegin hbody hcommit => simp [hstatements] at hundone
  | @rolledBack e answer db₁ db₂ db₃ hbegin hbody hrollback =>
    have hanswer : answer = .ok () := by
      simpa [hstatements, eq_comm] using hundone
    -- What the transaction goes back to is noted when it begins and outlives the body.
    have hbegun₁ := hdb.begin db (by rw [hbegin])
    have hbegun₂ := (hwork (Connection.begin db).2).begun hdb hplain hbegun₁
    rw [hbegin, hbody] at hbegun₂
    have hcontents := hdb.rollback (contents db) db₂ hbegun₂ (by rw [hrollback, hanswer])
    rwa [hrollback] at hcontents

/-! ### Statements in a transaction of their own -/

/-- How statements are sent one after the other: the calls that this makes and its outcome. -/
inductive SentEach (statements : List String) : List ConnectionEvent → Except Error Unit → Prop
  | through : SentEach statements (statements.map (.execute · (.ok ()))) (.ok ())
  | stopped (before : List String) (failing : String) (after : List String) (e : Error)
      (h : statements = before ++ failing :: after) :
      SentEach statements (before.map (.execute · (.ok ())) ++ [.execute failing (.error e)])
        (.error (.execMany failing e))

variable {statements : List String} {calls : List ConnectionEvent}

/-- Statements behind one that was executed are sent behind it. -/
theorem SentEach.cons {outcome : Except Error Unit} (sql : String)
    (h : SentEach statements calls outcome) :
    SentEach (sql :: statements) (.execute sql (.ok ()) :: calls) outcome := by
  cases h with
  | through => exact .through
  | stopped before failing after e h =>
    exact .stopped (sql :: before) failing after e (by rw [h, List.cons_append])

/-- Only the statements that are given are sent. -/
theorem SentEach.mem_of_sent {outcome : Except Error Unit} (h : SentEach statements calls outcome)
    {sql : String} (hsql : sql ∈ sent calls) : sql ∈ statements := by
  have hthrough (before : List String) :
      sent (before.map fun sql => .execute sql (.ok ())) = before := by
    induction before with
    | nil => rfl
    | cons sql rest ih => exact congrArg (sql :: ·) ih
  cases h with
  | through => rwa [hthrough] at hsql
  | stopped before failing after e h =>
    rw [sent_append, hthrough, List.mem_append] at hsql
    rw [h]
    rcases hsql with hsql | hsql
    · exact List.mem_append_left _ hsql
    · obtain rfl : sql = failing := List.mem_singleton.1 hsql
      exact List.mem_append_right _ List.mem_cons_self

/-- Statements are sent one after the other until one fails. -/
theorem sentEach_runEach (statements : List String) (db : δ) :
    SentEach statements (callsOf (runEach statements) db) (runEach statements db).1 := by
  induction statements generalizing db with
  | nil => exact .through
  | cons sql rest ih =>
    have hrecorded := Recorded.execute_recorded sql db []
    rcases hsql : Executor.execute sql db with ⟨e | report, db₁⟩
    · have hcalls : callsOf (runEach (sql :: rest)) db = [.execute sql (.error e)] := by
        rw [callsOf, runEach, hrecorded, hsql]
        rfl
      rw [hcalls, runEach, hsql]
      exact .stopped [] sql rest e rfl
    · have hcalls : callsOf (runEach (sql :: rest)) db =
          .execute sql (.ok ()) :: callsOf (runEach rest) db₁ := by
        have hrest := (sends_runEach rest db₁).recorded_eq [.execute sql (.ok ())]
        rw [callsOf, runEach, hrecorded, hsql]
        exact congrArg (·.2.log) hrest
      rw [hcalls, runEach, hsql]
      exact (ih db₁).cons sql

/-- A database with a table without rows. -/
def people : Store :=
  { tables := [⟨"person", [⟨"name", "TEXT", false, false, .null⟩], []⟩] }

/-- Two insertions, the second of which fails for want of its table. -/
def insertions : List String :=
  ["INSERT INTO person (name) VALUES ('Bob')", "INSERT INTO pet VALUES (1)"]

/-- Statements are sent one after the other up to the first that fails, and in an open transaction
nothing else is sent. In a transaction of their own they are sent alike and all of them are kept or
none: it is committed if none fails and rolled back otherwise. -/
theorem execMany_all_or_nothing (statements : List String) :
    (∀ db : δ,
      runEach statements ⟨db, []⟩ =
          ofRun (runEach statements db) (callsOf (runEach statements) db) ∧
        SentEach statements (callsOf (runEach statements) db) (runEach statements db).1) ∧
    ∀ db : δ,
      execMany statements ⟨db, []⟩ =
          ofRun (execMany statements db) (callsOf (execMany statements) db) ∧
        Transacted (runEach statements) (callsOf (runEach statements)) db
          (callsOf (execMany statements) db) (execMany statements db) ∧
        ∀ {γ : Type} (contents : δ → γ) (plain : String → Prop) (begun : γ → δ → Prop),
          Restores contents plain begun → (∀ sql ∈ statements, plain sql) →
            .rollback (.ok ()) ∈ callsOf (execMany statements) db →
              contents (execMany statements db).2 = contents db := by
  refine ⟨fun db => ⟨(sends_runEach statements db).recorded_eq [], sentEach_runEach statements db⟩,
    fun db => ?_⟩
  obtain ⟨hrecorded, htransacted⟩ := transaction_transacted (sends_runEach statements) db
  refine ⟨hrecorded, htransacted, fun contents plain begun hdb hplain hundone => ?_⟩
  apply htransacted.contents_eq hdb (fun db₁ => (sends_runEach statements db₁).works) ?_ hundone
  intro sql hsql
  exact hplain sql ((sentEach_runEach statements _).mem_of_sent hsql)

/-- An insertion is undone when the statement behind it fails. -/
theorem execMany_undoes_insertion :
    .rollback (.ok ()) ∈ callsOf (execMany insertions) people ∧
      (execMany insertions people).2.tables = people.tables := by
  have hundone : .rollback (.ok ()) ∈ callsOf (execMany insertions) people := by decide +kernel
  refine ⟨hundone, ?_⟩
  apply ((execMany_all_or_nothing insertions).2 people).2.2 Store.tables _ _ Store.restores
  · intro sql _
    trivial
  · exact hundone

/-! ### Bodies -/

/-- A body that adds a person and looks another one up, for want of whom it fails. -/
def addThenFail : Body Sqlite.ChangeReport Unit :=
  .ask (.exec "INSERT INTO person (name) VALUES (?)".toList [.text "Bob"]) fun _ =>
    .ask (.get (.scalar .text) "SELECT name FROM person WHERE name = ?".toList [.text "Eve"]) fun
      | .ok _ => .done (.ok ())
      | .error e => .done (.error e)

variable [Cursor κ] [ToString κ]

/-- A transaction with a body, whatever that does, ends once: it is committed if the body succeeds
and rolled back if it fails, after the statements of the body. -/
theorem transaction_ends_once (dialect : Dialect) (body : Body ρ α) (db : δ) :
    transaction (body.run dialect) ⟨db, []⟩ =
        ofRun (transaction (body.run dialect) db) (callsOf (transaction (body.run dialect)) db) ∧
      Transacted (body.run dialect) (callsOf (body.run dialect)) db
        (callsOf (transaction (body.run dialect)) db) (transaction (body.run dialect) db) ∧
      (∀ (db₁ : δ), ∀ call ∈ callsOf (body.run dialect) db₁, call.statement?.isSome) ∧
      ∀ {γ : Type} (contents : δ → γ) (plain : String → Prop) (begun : γ → δ → Prop),
        Restores contents plain begun →
          (∀ sql ∈ sent (callsOf (body.run dialect) (Connection.begin db).2), plain sql) →
            .rollback (.ok ()) ∈ callsOf (transaction (body.run dialect)) db →
              contents (transaction (body.run dialect) db).2 = contents db := by
  have hworks (db₁ : δ) := (sends_body dialect body db₁).works
  obtain ⟨hrecorded, htransacted⟩ := transaction_transacted (sends_body dialect body) db
  refine ⟨hrecorded, htransacted, fun db₁ => (hworks db₁).isSome_statement?, ?_⟩
  intro γ contents plain begun hdb hplain hundone
  exact htransacted.contents_eq hdb hworks hplain hundone

end

/-- A person added by a body that fails afterwards is gone. -/
theorem transaction_undoes_insertion :
    .rollback (.ok ()) ∈ callsOf (transaction (addThenFail.run .sqlite)) people ∧
      (transaction (addThenFail.run .sqlite) people).2.tables = people.tables := by
  have hundone : .rollback (.ok ()) ∈ callsOf (transaction (addThenFail.run .sqlite)) people := by
    decide +kernel
  refine ⟨hundone, ?_⟩
  apply (transaction_ends_once .sqlite addThenFail people).2.2.2 Store.tables _ _ Store.restores
  · intro sql _
    trivial
  · exact hundone

end SqlBinding.Session
