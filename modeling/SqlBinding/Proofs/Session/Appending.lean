import SqlBinding.Proofs.Row.Agreement
import SqlBinding.Scripted.Database
import SqlBinding.Session.Operations

/-!
# Appending the rows of a query

A query whose rows go to the end of a list comes to what the query comes to, and changes the list
by its rows or not at all (`queryInto_eq`). The rows of a query are those which its cursor has
delivered, or none for an empty list among its arguments (`query_delivered`).
-/

set_option autoImplicit false

namespace SqlBinding.Session

open Fetch Protocol

section

variable {δ κ ρ : Type} [Executor δ κ ρ] [Cursor κ] {dialect : Dialect} {d : Destination}
  {template : List Char} {arguments : List Argument}

/-- A query into a list puts the rows of the query behind those that are there. -/
theorem queryInto_eq (dest : List d.Val) (db : δ) :
    queryInto dialect d dest template arguments db =
      (query dialect d template arguments db).map (appended dest) id := by
  unfold queryInto query
  split
  · show ((Except.ok (), dest), db) = ((Except.ok (), dest ++ []), db)
    rw [List.append_nil]
  · rfl
  · unfold withCursor
    rcases Executor.query (String.ofList _) db with ⟨e | cursor, db⟩
    · rfl
    · simp only [into_eq]
      rfl

/-- Where the rows of a query come from: an empty list among its arguments stands for no rows, and
otherwise the statement is built, and a cursor is handed out that delivers the rows. -/
def Delivered (dialect : Dialect) (d : Destination) (template : List Char)
    (arguments : List Argument) (db : δ) (bound : List d.Val) : Prop :=
  Statement.format dialect template arguments = .error .emptyArrayArgument ∧ bound = [] ∨
    ∃ sql cursor, Statement.format dialect template arguments = .ok sql ∧
      (Executor.query (String.ofList sql) db).1 = .ok cursor ∧
      Bound .all d (all d (⟨cursor, []⟩ : Logged κ)).2.log bound

/-- The rows that a query answers with are those delivered to it. -/
theorem query_delivered {db : δ} {bound : List d.Val}
    (h : (query dialect d template arguments db).1 = .ok bound) :
    Delivered dialect d template arguments db bound := by
  unfold query at h
  split at h
  · rename_i hformat
    cases h
    exact .inl ⟨hformat, rfl⟩
  · cases h
  · rename_i sql hformat
    unfold withCursor at h
    rcases hquery : Executor.query (String.ofList sql) db with ⟨e | cursor, db₁⟩ <;>
      rw [hquery] at h
    · cases h
    · exact .inr ⟨sql, cursor, hformat, congrArg Prod.fst hquery, all_bound h⟩

end

/-- Appending agrees with reading. Whatever the cursor does, binding its rows to the end of a list
leaves the cursor as binding them all does, and the list with the rows behind its contents, or with
the same error and its contents alone; the rows are those delivered. The same holds of queries,
whatever the database does and whether or not the statement can be built. -/
theorem appending_agrees_with_reading (d : Destination) (dest : List d.Val) :
    (∀ {σ : Type} [Cursor σ] (s : σ),
      into d dest s = (all d s).map (appended dest) id ∧
      ∀ bound, (all d s).1 = .ok bound →
        Bound .all d (all d (⟨s, []⟩ : Logged σ)).2.log bound) ∧
    ∀ {δ κ ρ : Type} [Executor δ κ ρ] [Cursor κ] (dialect : Dialect) (template : List Char)
      (arguments : List Argument) (db : δ),
      queryInto dialect d dest template arguments db =
        (query dialect d template arguments db).map (appended dest) id ∧
      ∀ bound, (query dialect d template arguments db).1 = .ok bound →
        Delivered dialect d template arguments db bound := by
  constructor
  · intro σ _ s
    exact ⟨into_eq dest s, fun bound h => all_bound h⟩
  · intro δ κ ρ _ _ dialect template arguments db
    exact ⟨queryInto_eq dest db, fun bound h => query_delivered h⟩

/-- Two flags read behind a third, from a cursor and by a query of a session. -/
theorem appending_agrees_with_reading_flags :
    let set : Scripted.ResultSet := { columns := ["done"], rows := [[.bool true], [.bool false]] }
    let db : Scripted.Database := { results := [set] }
    let template := "SELECT done FROM task".toList
    (into (.scalar .bool) [false] set.cursor).1 = (.ok (), [false, true, false]) ∧
      Bound .all (.scalar .bool)
        (all (.scalar .bool) (⟨set.cursor, []⟩ : Logged Scripted.RowsCursor)).2.log [true, false] ∧
      (queryInto .sqlite (.scalar .bool) [false] template [] db).1 =
        (.ok (), [false, true, false]) ∧
      Delivered .sqlite (.scalar .bool) template [] db [true, false] := by
  intro set db template
  have hall : (all (.scalar .bool) set.cursor).1 = .ok [true, false] :=
    all_eq_ok_iff.2 ⟨_, _, _, rfl, .row rfl rfl (.row rfl rfl (.ended rfl)), rfl⟩
  have htraced : (all (.scalar .bool) (⟨set.cursor, []⟩ : Traced Scripted.RowsCursor)).1 =
      .ok [true, false] :=
    all_eq_ok_iff.2 ⟨_, _, _, rfl, .row rfl rfl (.row rfl rfl (.ended rfl)), rfl⟩
  have hquery : (query .sqlite (.scalar .bool) template [] db).1 = .ok [true, false] := htraced
  obtain ⟨hcursor, hsession⟩ := appending_agrees_with_reading (.scalar .bool) [false]
  refine ⟨?_, (hcursor set.cursor).2 _ hall, ?_, (hsession .sqlite template [] db).2 _ hquery⟩
  · rw [(hcursor set.cursor).1]
    exact congrArg (appended [false]) hall
  · rw [(hsession .sqlite template [] db).1]
    exact congrArg (appended [false]) hquery

end SqlBinding.Session
