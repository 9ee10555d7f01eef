import SqlBinding.Proofs.Outcome
import SqlBinding.Proofs.Session.Recording
import SqlBinding.Sqlite.Connection

/-!
# Rolling a database in memory back

Statements change the tables of a database but not the tables it goes back to. So a database in
memory can undo its transactions, whatever is sent to it (`restores`).
-/

set_option autoImplicit false

namespace SqlBinding.Sqlite.Store

variable {s s' : Store} {effect : Effect}

/-- Creating a table keeps what an open transaction began with. -/
theorem createTable_saved {name : String} {columns : List ColumnDef}
    (h : s.createTable name columns = .ok s') : s'.saved = s.saved := by
  unfold createTable at h
  split at h
  · cases h
  · split at h
    · cases h
      rfl
    · cases h

/-- Inserting rows keeps what an open transaction began with, even if it fails. -/
theorem insert_saved (s : Store) (table : String) (columns : Option (List String))
    (rows : List (List Cell)) (returning : Option Selection) :
    (s.insert table columns rows returning).2.saved = s.saved := by
  unfold insert
  simp only
  split
  · rfl
  · split
    · rfl
    · rfl

/-- Updating rows keeps what an open transaction began with. -/
theorem update_saved {table : String} {assignments : List (String × Cell)} {filter : Option Filter}
    {returning : Option Selection}
    (h : s.update table assignments filter returning = .ok (effect, s')) : s'.saved = s.saved := by
  unfold update at h
  simp only [Outcome.bind_eq_ok_iff] at h
  obtain ⟨t, -, columns, -, rows, -, view, -, ⟨t', changed⟩, -, h⟩ := h
  cases h
  rfl

/-- Deleting rows keeps what an open transaction began with. -/
theorem delete_saved {table : String} {filter : Option Filter} {returning : Option Selection}
    (h : s.delete table filter returning = .ok (effect, s')) : s'.saved = s.saved := by
  unfold delete at h
  simp only [Outcome.bind_eq_ok_iff] at h
  obtain ⟨t, -, rows, -, view, -, h⟩ := h
  cases h
  rfl

/-- A statement that fails leaves the store as it was, and so what a transaction began with. -/
theorem settle_saved {outcome : Except Fault (Effect × Store)}
    (h : ∀ effect s', outcome = .ok (effect, s') → s'.saved = s.saved) :
    (s.settle outcome).2.saved = s.saved := by
  rcases outcome with e | ⟨effect, s'⟩
  · rfl
  · exact h effect s' rfl

/-- No statement changes what an open transaction began with. -/
theorem run_saved (s : Store) (statement : Statement) :
    (s.run statement).2.saved = s.saved := by
  cases statement with
  | createTable table columns =>
    apply settle_saved
    intro effect s' h
    obtain ⟨s₁, hs₁, h⟩ := Outcome.map_eq_ok_iff.1 h
    cases h
    exact createTable_saved hs₁
  | insert table columns rows returning => exact insert_saved s table columns rows returning
  | update table assignments filter returning => exact settle_saved fun _ _ h => update_saved h
  | delete table filter returning => exact settle_saved fun _ _ h => delete_saved h
  | select selection table filter order => rfl
  | constants values => rfl

/-- A text of statements leaves alone what the open transaction goes back to, however far it
runs. -/
theorem runAll_saved (statements : List (List Token)) (s : Store) :
    (runAll statements s).2.saved = s.saved := by
  have hrun (s : Store) (statement : Statement) {outcome : Except Fault Effect} {s₁ : Store}
      (h : s.run statement = (outcome, s₁)) : s₁.saved = s.saved := by
    simpa [h] using run_saved s statement
  fun_induction runAll statements s with
  | case1 s => rfl
  | case2 tokens rest s _ => rfl
  | case3 tokens rest s statement _ e s₁ h => exact hrun s statement h
  | case4 tokens rest s statement _ effect s₁ h e s₂ hrest ih =>
    rw [hrest] at ih
    exact ih.trans (hrun s statement h)
  | case5 tokens rest s statement _ effect s₁ h later s₂ hrest ih =>
    rw [hrest] at ih
    exact ih.trans (hrun s statement h)

/-- A query keeps what an open transaction began with. -/
theorem query_saved (sql : String) (s : Store) : (query sql s).2.saved = s.saved := by
  rw [← runAll_saved (Token.statements sql.toList) s]
  unfold query
  split <;> rename_i h <;> rw [h]

/-- Executing statements keeps what an open transaction began with. -/
theorem execute_saved (sql : String) (s : Store) : (execute sql s).2.saved = s.saved := by
  rw [← runAll_saved (Token.statements sql.toList) s]
  unfold execute
  split <;> rename_i h <;> rw [h]

/-- In an open transaction a database remembers the tables with which the transaction began. No
statement of a database in memory begins or ends a transaction. -/
theorem restores :
    Session.Restores tables (fun _ => True)
      fun (c : List Table) (s : Store) => s.saved = some c where
  begin _ _ := rfl
  query c s sql _ h := (query_saved sql s).trans h
  execute c s sql _ h := (execute_saved sql s).trans h
  release _ _ _ h := h
  rollback c s h _ := by
    show s.saved.getD s.tables = c
    rw [h, Option.getD_some]

end SqlBinding.Sqlite.Store
