import SqlBinding.Proofs.Row.Protocol
import SqlBinding.Scripted.ResultSet

/-!
# Fetches obey the protocol

Run on a logged cursor, each part of a fetch comes to the same as without the log, and the calls it
makes lead from one phase of the protocol to another (`Leads`).
-/

set_option autoImplicit false

namespace SqlBinding.Protocol

open Fetch

/-- A run on a logged cursor comes to the same as the run without the log, and the calls that it
adds to the log lead from one phase to another. -/
def Leads {σ α : Type} {d : Destination} (k : Demand) (phase phase₁ : Phase d) (run : α × σ)
    (log : List CursorEvent) (logged : α × Logged σ) : Prop :=
  ∃ calls, logged = Logged.ofRun run (log ++ calls) ∧ Run k phase calls phase₁

section Leads

variable {σ α : Type} {k : Demand} {d : Destination} {phase phase₁ phase₂ : Phase d}
  {run : α × σ} {log calls : List CursorEvent} {logged : α × Logged σ}

/-- A run that leads on from where some calls lead begins where they do. -/
theorem Leads.behind (hcalls : Run k phase calls phase₁)
    (h : Leads k phase₁ phase₂ run (log ++ calls) logged) :
    Leads k phase phase₂ run log logged := by
  obtain ⟨more, hlogged, hmore⟩ := h
  exact ⟨calls ++ more, by rw [hlogged, List.append_assoc], hcalls.append hmore⟩

/-- One call leads where its step does. -/
theorem Leads.last {call : CursorEvent} (hcall : Step k phase call phase₁) (run : α × σ) :
    Leads k phase phase₁ run log (Logged.ofRun run (log ++ [call])) :=
  ⟨[call], rfl, .single hcall⟩

/-- A run without calls leads nowhere. -/
theorem Leads.none (phase : Phase d) (run : α × σ) (log : List CursorEvent) :
    Leads k phase phase run log (Logged.ofRun run log) :=
  ⟨[], by rw [List.append_nil], .refl phase⟩

end Leads

/-! ### The parts of a fetch -/

variable {σ : Type} [Cursor σ] {k : Demand} {d : Destination}

/-- The phase after planning. -/
def Phase.planned (d : Destination) : Except Error RowPlan → Phase d
  | .ok p => .ready p []
  | .error e => .over (.error e)

/-- The phase after a row has been read. -/
def Phase.read (k : Demand) (p : RowPlan) (rows : List d.Val) : Except Error d.Val → Phase d
  | .ok row => if k = .first then .over (.ok (rows ++ [row])) else .ready p (rows ++ [row])
  | .error e => .over (.error e)

/-- Planning leads to where rows can be read, or is over. -/
theorem leads_plan (s : σ) (log : List CursorEvent) :
    Leads k .opened (.planned d (plan d s).1) (plan d s) log (plan d (⟨s, log⟩ : Logged σ)) := by
  unfold plan
  rw [Logged.columns_logged]
  rcases Cursor.columns s with ⟨e | names, s₁⟩
  · exact .last (.failed (.columns e)) _
  · apply Leads.behind (.single (.described names))
    simp only [Logged.ofRun, Logged.columnTypes_logged]
    rcases Cursor.columnTypes s₁ with ⟨e | types, s₂⟩
    · exact .last (.failed (.columnTypes names e)) _
    · simp only
      cases h : d.plan names types with
      | error e => exact .last (.failed (.planning h)) _
      | ok p => exact .last (.planned h) _

/-- Reading the current row leads behind it, or is over. -/
theorem leads_current (p : RowPlan) (done : List d.Val) (s : σ) (log : List CursorEvent) :
    Leads k (.onRow p done) (.read k p done (current d p s).1) (current d p s) log
      (current d p (⟨s, log⟩ : Logged σ)) := by
  unfold current
  rw [Logged.scan_logged]
  rcases Cursor.scan s with ⟨e | values, s₁⟩
  · exact .last (.failed (.scan p done e)) _
  · simp only [Logged.ofRun]
    cases h : d.bind p values with
    | error e => exact .last (.failed (.binding done h)) _
    | ok row =>
      simp only [Phase.read]
      split
      · exact .last (.satisfied done ‹_› h) _
      · exact .last (.bound done ‹_› h) _

/-- The loop over the rows, without the bound by which it ends. -/
theorem rows_eq (p : RowPlan) (out : List d.Val) (s : σ) :
    rows d p out s =
      match Cursor.next s with
      | (.error e, s₁) => ((.error e, out), s₁)
      | (.ok false, s₁) => ((.ok (), out), s₁)
      | (.ok true, s₁) =>
        match current d p s₁ with
        | (.error e, s₂) => ((.error e, out), s₂)
        | (.ok row, s₂) => rows d p (out ++ [row]) s₂ := by
  rw [rows]
  split
  next h => simp only [h]
  next h => simp only [h]
  next s₁ h =>
    simp only [h]
    split
    next hc => simp only [hc]
    next hc => simp only [hc]

/-- Reading rows leads to the end, with the rows that it adds. -/
theorem leads_rows (p : RowPlan) (done out : List d.Val) (s : σ) (log : List CursorEvent) :
    ∃ more, (rows d p out s).1.2 = out ++ more ∧
      Leads .all (.ready p done) (.over ((rows d p out s).1.1.map fun _ => done ++ more))
        (rows d p out s) log (rows d p out (⟨s, log⟩ : Logged σ)) := by
  -- the rows of the phase and the list that rows are bound to the end of grow alike
  fun_induction rows d p out s generalizing done log with
  | case1 out s e s₁ h =>
    refine ⟨[], (List.append_nil _).symm, ?_⟩
    rw [rows_eq, Logged.next_logged, h]
    exact .last (.failed (.next p done e)) _
  | case2 out s s₁ h =>
    refine ⟨[], (List.append_nil _).symm, ?_⟩
    rw [rows_eq, Logged.next_logged, h, List.append_nil]
    exact .last (.exhausted p (absurd rfl)) _
  | case3 out s s₁ h e s₂ hc =>
    obtain ⟨calls, hlogged, hrun⟩ := leads_current (k := .all) p done s₁ (log ++ [.next (.ok true)])
    rw [hc] at hlogged hrun
    refine ⟨[], (List.append_nil _).symm, ?_⟩
    rw [rows_eq, Logged.next_logged, h]
    apply Leads.behind (.single (.advanced p (by simp)))
    simp only [Logged.ofRun]
    rw [hlogged]
    exact .behind hrun (.none _ _ _)
  | case4 out s s₁ h row s₂ hc _ ih =>
    obtain ⟨calls, hlogged, hrun⟩ := leads_current (k := .all) p done s₁ (log ++ [.next (.ok true)])
    rw [hc] at hlogged hrun
    obtain ⟨more, hmore, hrest⟩ := ih (done ++ [row]) (log ++ [.next (.ok true)] ++ calls)
    refine ⟨[row] ++ more, by rw [hmore, List.append_assoc], ?_⟩
    rw [rows_eq p out (⟨s, log⟩ : Logged σ), Logged.next_logged, h, ← List.append_assoc done]
    apply Leads.behind (.single (.advanced p (by simp)))
    simp only [Logged.ofRun]
    rw [hlogged]
    exact .behind hrun hrest

/-- Collecting all rows leads to the end, with the rows that it adds. -/
theorem leads_collect (out : List d.Val) (s : σ) (log : List CursorEvent) :
    ∃ more, (collect d out s).1.2 = out ++ more ∧
      Leads .all .opened (.over ((collect d out s).1.1.map fun _ => more)) (collect d out s) log
        (collect d out (⟨s, log⟩ : Logged σ)) := by
  obtain ⟨calls, hlogged, hrun⟩ := leads_plan (k := .all) (d := d) s log
  unfold collect
  rw [hlogged]
  rcases hplan : plan d s with ⟨e | p, s₁⟩ <;> rw [hplan] at hrun
  · exact ⟨[], (List.append_nil _).symm, .behind hrun (.none _ _ _)⟩
  · obtain ⟨more, hmore, hrows⟩ := leads_rows p [] out s₁ (log ++ calls)
    exact ⟨more, hmore, .behind hrun hrows⟩

/-- The outcome of a fetch is settled with that of closing the cursor. -/
theorem finish_eq {α : Type} (outcome : Except Error α) (s : σ) :
    finish outcome s = (settle outcome (Cursor.close s).1, (Cursor.close s).2) := by
  unfold finish
  rcases Cursor.close s with ⟨_ | _, s₁⟩ <;> cases outcome <;> rfl

/-- What is made of the value of a fetch is made of the settled outcome. -/
theorem settle_map {α β : Type} (f : α → β) (outcome : Except Error α)
    (closing : Except Error Unit) :
    (settle outcome closing).map f = settle (outcome.map f) closing := by
  cases outcome <;> cases closing <;> rfl

/-- A fetch keeps to the protocol: on a logged cursor it comes to the same as without the log, and
what it has logged is calls that obey the protocol and the closing of the cursor. -/
def Keeps {α : Type} (k : Demand) (run : α × σ) (logged : α × Logged σ)
    (outcome : Except Error (List d.Val)) : Prop :=
  ∃ calls closing, logged = Logged.ofRun run (calls ++ [.close closing]) ∧
    Obeys k d calls closing outcome

/-- A fetch whose calls lead to the end keeps to the protocol when it closes the cursor. -/
theorem keeps_finish {α : Type} {outcome : Except Error α} {f : α → List d.Val} {s : σ}
    {calls : List CursorEvent} (h : Run k .opened calls (.over (outcome.map f))) :
    Keeps k (finish outcome s) (finish outcome (⟨s, calls⟩ : Logged σ))
      ((finish outcome s).1.map f) := by
  refine ⟨calls, (Cursor.close s).1, ?_, ?_⟩
  · rw [finish_eq, finish_eq, Logged.close_logged]
    rfl
  · rw [finish_eq, settle_map]
    exact h.obeys _

/-- Fetching all rows keeps to the protocol. -/
theorem keeps_all (s : σ) : Keeps .all (all d s) (all d (⟨s, []⟩ : Logged σ)) (all d s).1 := by
  obtain ⟨more, hmore, calls, hlogged, hrun⟩ := leads_collect (d := d) [] s []
  unfold all
  rw [hlogged]
  rcases hc : collect d [] s with ⟨⟨outcome, out⟩, s₁⟩
  rw [hc] at hmore hrun
  have hout : out = more := hmore
  subst hout
  have h := keeps_finish (f := id) (s := s₁) (by rwa [Except.map_id])
  rwa [Except.map_id] at h

/-- A second row is noticed without being read, and the cursor failing to close does not hide it. -/
example :
    let set : Scripted.ResultSet :=
      { columns := ["done"], rows := [[.bool true], [.bool false]], failures := { close := true } }
    let run := one (.scalar .bool) (⟨set.cursor, []⟩ : Logged Scripted.RowsCursor)
    run.1 = .error .multipleResults ∧
      run.2.log = [.columns (.ok ["done"]), .columnTypes (.ok []), .next (.ok true),
        .scan (.ok [.bool true]), .next (.ok true), .close (.error (.driver "close failed"))] :=
  ⟨rfl, rfl⟩

end SqlBinding.Protocol
