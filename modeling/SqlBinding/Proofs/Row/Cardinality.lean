import SqlBinding.Proofs.Record.Contents
import SqlBinding.Proofs.Row.Agreement

/-!
# The number of rows

Fetches of one row and of all rows agree on the number of rows, whatever the cursor does. How a
cursor answers is told by a script: what each of its calls gives, and the same answer to closing
however far it has come. Every cursor that closes in the same way wherever it stands follows a
script (`exists_follows`). Along a script no call of which fails, single-row fetches come to what
the first row is bound to and notice a second row without reading it (`first_flawless`,
`one_flawless_several`).
-/

set_option autoImplicit false

namespace SqlBinding

/-! ### Scripts of cursors -/

/-- The answers of a cursor that is walked to its end. -/
structure CursorScript where
  columns : Except Error (List String)
  columnTypes : Except Error (List ColumnType)
  /-- What reading gives on each of the rows. -/
  rows : List (Except Error (List ColumnValue))
  /-- Whether moving on behind these rows fails. -/
  ending : Except Error Unit
  /-- What closing gives, however far the cursor has come. -/
  closing : Except Error Unit

/-- The script of a cursor no call of which fails. -/
def CursorScript.flawless (names : List String) (types : List ColumnType)
    (rows : List (List ColumnValue)) : CursorScript :=
  ⟨.ok names, .ok types, rows.map .ok, .ok (), .ok ()⟩

variable {σ : Type} [Cursor σ]

/-- A cursor gives these answers to being read row by row, ends in this way, and closes alike behind
every row and at its end. -/
inductive Walks (ending closing : Except Error Unit) :
    σ → List (Except Error (List ColumnValue)) → Prop
  | ended {s s' : σ} (hnext : Cursor.next s = (ending.map fun _ => false, s'))
      (hclose : (Cursor.close s').1 = closing) : Walks ending closing s []
  | row {s s₁ s₂ : σ} {answer : Except Error (List ColumnValue)}
      {rows : List (Except Error (List ColumnValue))} (hnext : Cursor.next s = (.ok true, s₁))
      (hscan : Cursor.scan s₁ = (answer, s₂)) (hclose : (Cursor.close s₂).1 = closing)
      (hrows : Walks ending closing s₂ rows) : Walks ending closing s (answer :: rows)

/-- A cursor answers as a script says. -/
structure Follows (s : σ) (script : CursorScript) : Prop where
  columns : (Cursor.columns s).1 = script.columns
  columnTypes : (Cursor.columnTypes (Cursor.columns s).2).1 = script.columnTypes
  walks : Walks script.ending script.closing (Cursor.columnTypes (Cursor.columns s).2).2
    script.rows

/-- A cursor whose closing does not depend on reading can be walked to its end. -/
theorem exists_walks (hnext : ∀ s : σ, (Cursor.close (Cursor.next s).2).1 = (Cursor.close s).1)
    (hscan : ∀ s : σ, (Cursor.close (Cursor.scan s).2).1 = (Cursor.close s).1) (s : σ) :
    ∃ ending rows, Walks ending (Cursor.close s).1 s rows := by
  -- the rows left bound how far the cursor can be walked
  induction h : Cursor.remaining s using Nat.strongRecOn generalizing s with
  | ind n ih =>
    rcases hs : Cursor.next s with ⟨e | _ | _, s₁⟩
    · refine ⟨.error e, [], .ended hs ?_⟩
      rw [← hnext s, hs]
    · refine ⟨.ok (), [], .ended hs ?_⟩
      rw [← hnext s, hs]
    · rcases hs₁ : Cursor.scan s₁ with ⟨answer, s₂⟩
      have hclose : (Cursor.close s₂).1 = (Cursor.close s).1 := by
        rw [← hnext s, hs, ← hscan s₁, hs₁]
      have hless : Cursor.remaining s₂ < n := by
        have hlt := Cursor.next_lt s (by rw [hs])
        have hle := Cursor.scan_le s₁
        simp only [hs, hs₁] at hlt hle
        omega
      obtain ⟨ending, rows, hrows⟩ := ih _ hless s₂ rfl
      rw [hclose] at hrows
      exact ⟨ending, answer :: rows, .row hs hs₁ hclose hrows⟩

/-- The cursors that follow scripts are all those that close in the same way wherever they stand. -/
theorem exists_follows
    (hnext : ∀ s : σ, (Cursor.close (Cursor.next s).2).1 = (Cursor.close s).1)
    (hscan : ∀ s : σ, (Cursor.close (Cursor.scan s).2).1 = (Cursor.close s).1) (s : σ) :
    ∃ script, Follows s script := by
  obtain ⟨ending, rows, hwalks⟩ :=
    exists_walks hnext hscan (Cursor.columnTypes (Cursor.columns s).2).2
  exact ⟨⟨_, _, rows, ending, _⟩, rfl, rfl, hwalks⟩

/-- In particular result sets that are written down beforehand do. -/
theorem Scripted.ResultSet.exists_follows (set : Scripted.ResultSet) :
    ∃ script, Follows set.cursor script := by
  apply SqlBinding.exists_follows
  · intro c
    show (Cursor.close (Scripted.RowsCursor.next c).2).1 = (Cursor.close c).1
    unfold Scripted.RowsCursor.next
    split <;> rfl
  · intro c
    rfl

/-! ### Why a row is not bound -/

/-- The errors of rows that are not bound: the destination cannot receive the row, or a value cannot
be stored. -/
inductive Error.OfRow : Error → Prop
  | container (fault : ContainerFault) : OfRow (.invalidContainer fault)
  | scan (column : String) (cause : ScanError) : OfRow (.scan column cause)

section OfRow

variable {p : RowPlan} {values : List ColumnValue} {e : Error}

/-- A row of the wrong width is an error of the row. -/
theorem RowPlan.ofRow_checkWidth (h : p.checkWidth values = .error e) : e.OfRow := by
  unfold checkWidth at h
  split at h <;> cases h
  exact .container _

/-- A value that a scalar does not take is an error of the row. -/
theorem RowPlan.ofRow_bindScalar {s : Scalar} (h : p.bindScalar s values = .error e) :
    e.OfRow := by
  unfold bindScalar at h
  split at h
  · cases h
    exact .container _
  · rename_i v rest
    cases hv : s.ofColumn v <;> rw [hv] at h <;> cases h
    exact .scan _ _

/-- A row that a record does not take is an error of the row. -/
theorem RowPlan.ofRow_bindRecord {fs : Record.Fields} (h : p.bindRecord fs values = .error e) :
    e.OfRow := by
  unfold bindRecord at h
  split at h
  · split at h
    · cases h
      exact ofRow_checkWidth ‹_›
    · obtain ⟨_, _, _, _, cause, _, _, _, rfl⟩ := Record.Fields.writeFields_eq_error h
      exact .scan _ cause
  · cases h
    exact .container _

/-- A value that a map does not take is an error of the row. -/
theorem RowPlan.ofRow_readValues {index : Nat} {row : NameMap ColumnValue}
    {cells : List (ColumnType × ColumnValue)} (h : p.readValues index row cells = .error e) :
    e.OfRow := by
  fun_induction p.readValues index row cells with
  | case1 => cases h
  | case2 index row column v rest cause hread =>
    cases h
    exact .scan _ cause
  | case3 index row column v rest value hread ih => exact ih h

/-- A row that a map does not take is an error of the row. -/
theorem RowPlan.ofRow_bindMap (h : p.bindMap values = .error e) : e.OfRow := by
  unfold bindMap at h
  split at h
  · split at h
    · cases h
      exact ofRow_checkWidth ‹_›
    · exact ofRow_readValues h
  · cases h
    exact .container _

/-- Binding a row only has errors of the row. -/
theorem Destination.ofRow_bind {d : Destination} (h : d.bind p values = .error e) : e.OfRow := by
  cases d with
  | scalar s => exact RowPlan.ofRow_bindScalar h
  | record fs => exact RowPlan.ofRow_bindRecord h
  | boxed fs => exact RowPlan.ofRow_bindRecord h
  | map => exact RowPlan.ofRow_bindMap h

end OfRow

/-! ### Fetching the first row and the only row -/

namespace Fetch

open Protocol

variable {d : Destination} {p : RowPlan} {s : σ} {names : List String} {types : List ColumnType}
  {rows : List (List ColumnValue)} {values : List ColumnValue}

/-- On a cursor without errors, planning comes to the plan of the destination and reads no row. -/
theorem plan_flawless (h : Follows s (.flawless names types rows)) :
    ∃ s₁, plan d s = (d.plan names types, s₁) ∧
      plan d (⟨s, []⟩ : Logged σ) =
        (d.plan names types, ⟨s₁, [.columns (.ok names), .columnTypes (.ok types)]⟩) ∧
      Walks (.ok ()) (.ok ()) s₁ (rows.map .ok) := by
  obtain ⟨hcolumns, htypes, hwalks⟩ := h
  unfold plan
  rw [Logged.columns_logged]
  rcases hs : Cursor.columns s with ⟨outcome, s₁⟩
  rw [hs] at hcolumns htypes hwalks
  obtain rfl : outcome = .ok names := hcolumns
  rcases hs₁ : Cursor.columnTypes s₁ with ⟨outcome, s₂⟩
  rw [hs₁] at htypes hwalks
  obtain rfl : outcome = .ok types := htypes
  simp only [Logged.ofRun, Logged.columnTypes_logged, hs₁]
  exact ⟨s₂, rfl, rfl, hwalks⟩

/-- Without rows there is no first one. -/
theorem leading_flawless_nil (h : Follows s (.flawless names types []))
    (hplan : d.plan names types = .ok p) : (leading d s).1 = .error .emptyResult := by
  obtain ⟨s₁, hs, -, hwalks⟩ := plan_flawless (d := d) h
  unfold leading
  rw [hs, hplan]
  cases hwalks with
  | ended hnext => simp only [hnext, Except.map]

/-- The first row is what its values are bound to, and only they are read. -/
theorem leading_flawless (h : Follows s (.flawless names types (values :: rows)))
    (hplan : d.plan names types = .ok p) :
    ∃ s₁, leading d s = (d.bind p values, s₁) ∧
      leading d (⟨s, []⟩ : Logged σ) = (d.bind p values, ⟨s₁, [.columns (.ok names),
        .columnTypes (.ok types), .next (.ok true), .scan (.ok values)]⟩) ∧
      (Cursor.close s₁).1 = .ok () ∧ Walks (.ok ()) (.ok ()) s₁ (rows.map .ok) := by
  obtain ⟨s₁, hs, hlogged, hwalks⟩ := plan_flawless (d := d) h
  unfold leading
  rw [hs, hlogged, hplan]
  cases hwalks with
  | row hnext hscan hclose hrows =>
    refine ⟨_, ?_, ?_, hclose, hrows⟩
    · simp only [hnext, current, hscan]
    · simp only [Logged.next_logged, Logged.ofRun, hnext, current, Logged.scan_logged, hscan]
      rfl

/-- Whether a call reads a row. -/
def isScan : CursorEvent → Bool
  | .scan _ => true
  | _ => false

/-- The only row is what its values are bound to, unless there are others; of several rows the first
is read and no other. -/
theorem only_flawless (h : Follows s (.flawless names types (values :: rows)))
    (hplan : d.plan names types = .ok p) :
    (only d s).1 = (d.bind p values).bind
        (fun v => if rows.isEmpty then .ok v else .error .multipleResults) ∧
      (only d (⟨s, []⟩ : Logged σ)).2.log.filter isScan = [.scan (.ok values)] := by
  obtain ⟨s₁, hs, hlogged, -, hwalks⟩ := leading_flawless h hplan
  unfold only
  rw [hs, hlogged]
  cases d.bind p values with
  | error e => exact ⟨rfl, rfl⟩
  | ok v =>
    simp only [Logged.next_logged]
    cases rows with
    | nil =>
      cases hwalks with
      | ended hnext =>
        rw [hnext]
        exact ⟨rfl, rfl⟩
    | cons second later =>
      cases hwalks with
      | row hnext =>
        rw [hnext]
        exact ⟨rfl, rfl⟩

/-- Closing the cursor never says that there was no row. -/
theorem settle_eq_emptyResult_iff {α : Type} {outcome : Except Error α}
    {closing : Except Error Unit} :
    settle outcome closing = .error .emptyResult ↔ outcome = .error .emptyResult := by
  cases outcome <;> cases closing <;> simp [settle]

/-- Binding a row never says that there was none. -/
theorem bind_ne_emptyResult : d.bind p values ≠ .error .emptyResult :=
  fun h => nomatch Destination.ofRow_bind h

/-- Fetching the first row says that there is none exactly if there is none. -/
theorem first_eq_emptyResult_iff (h : Follows s (.flawless names types rows))
    (hplan : d.plan names types = .ok p) : (first d s).1 = .error .emptyResult ↔ rows = [] := by
  rw [first_eq, finish_eq, settle_eq_emptyResult_iff]
  cases rows with
  | nil => simpa using leading_flawless_nil h hplan
  | cons values rows =>
    obtain ⟨s₁, hs, -⟩ := leading_flawless h hplan
    simpa [hs] using bind_ne_emptyResult

/-- Fetching one row says that there is none exactly if there is none. -/
theorem one_eq_emptyResult_iff (h : Follows s (.flawless names types rows))
    (hplan : d.plan names types = .ok p) : (one d s).1 = .error .emptyResult ↔ rows = [] := by
  rw [one_eq, finish_eq, settle_eq_emptyResult_iff]
  cases rows with
  | nil =>
    have hleading := leading_flawless_nil h hplan
    rcases hs : leading d s with ⟨outcome, s₁⟩
    rw [hs] at hleading
    obtain rfl : outcome = .error .emptyResult := hleading
    simp [only, hs]
  | cons values rows =>
    rw [(only_flawless h hplan).1]
    cases hbind : d.bind p values with
    | error e =>
      have hne : e ≠ .emptyResult := fun he => bind_ne_emptyResult (he ▸ hbind)
      simpa [Except.bind] using hne
    | ok v =>
      simp only [Except.bind]
      split <;> simp

/-- The first row is what binding it comes to. -/
theorem first_flawless (h : Follows s (.flawless names types (values :: rows)))
    (hplan : d.plan names types = .ok p) : (first d s).1 = d.bind p values := by
  obtain ⟨s₁, hs, -, hclose, -⟩ := leading_flawless h hplan
  rw [first_eq, finish_eq, hs]
  simp only [hclose]
  cases d.bind p values <;> rfl

/-- Of several rows, only the first is read, and unless it cannot be bound there are too many. -/
theorem one_flawless_several (h : Follows s (.flawless names types (values :: rows)))
    (hplan : d.plan names types = .ok p) (hrows : rows ≠ []) :
    (one d s).1 = (d.bind p values).bind (fun _ => .error .multipleResults) ∧
      (one d (⟨s, []⟩ : Logged σ)).2.log.filter isScan = [.scan (.ok values)] := by
  obtain ⟨honly, hscans⟩ := only_flawless h hplan
  have hempty : rows.isEmpty = false := by simpa using hrows
  rw [hempty] at honly
  constructor
  · rw [one_eq, finish_eq, honly]
    cases d.bind p values <;> rfl
  · -- closing the cursor reads no row
    rw [one_eq, finish_eq]
    show List.filter isScan ((only d (⟨s, []⟩ : Logged σ)).2.log ++ [.close _]) = _
    rw [List.filter_append, hscans]
    rfl

/-! ### All rows and the first row -/

section Walks

variable {ending closing : Except Error Unit} {answers : List (Except Error (List ColumnValue))}
  {s' s₁ s₂ : σ} {v : d.Val} {bound : List d.Val}

/-- A cursor at its end closes as the walk says. -/
theorem close_of_ended (h : Walks ending closing s answers)
    (hnext : Cursor.next s = (.ok false, s')) : (Cursor.close s').1 = closing := by
  cases h with
  | ended hend hclose =>
    cases (Prod.mk.inj (hnext.symm.trans hend)).2
    exact hclose
  | row hrow => cases hnext.symm.trans hrow

/-- Behind a row that is bound, the walk goes on, and the cursor closes as the walk says. -/
theorem walks_of_row (h : Walks ending closing s answers)
    (hnext : Cursor.next s = (.ok true, s₁)) (hcurrent : current d p s₁ = (.ok v, s₂)) :
    (Cursor.close s₂).1 = closing ∧ ∃ rest, Walks ending closing s₂ rest := by
  cases h with
  | ended hend =>
    have hfalse := (Prod.mk.inj (hnext.symm.trans hend)).1
    cases ending <;> cases hfalse
  | row hrow hscan hclose hrows =>
    cases hnext.symm.trans hrow
    obtain ⟨values, hvalues, -⟩ := current_eq_ok_iff.1 hcurrent
    cases hvalues.symm.trans hscan
    exact ⟨hclose, _, hrows⟩

/-- Behind all rows, the cursor closes as the walk says. -/
theorem close_of_reads (hreads : Reads d p s bound s') (h : Walks ending closing s answers) :
    (Cursor.close s').1 = closing := by
  induction hreads generalizing answers with
  | ended hnext => exact close_of_ended h hnext
  | row hnext hcurrent _ ih =>
    obtain ⟨-, rest, hrest⟩ := walks_of_row h hnext hcurrent
    exact ih hrest

end Walks

/-- Planning leaves the cursor where asking for its columns and their types does. -/
theorem plan_snd_of_ok {s₁ : σ} (h : plan d s = (.ok p, s₁)) :
    s₁ = (Cursor.columnTypes (Cursor.columns s).2).2 := by
  unfold plan at h
  rcases hs : Cursor.columns s with ⟨e | names, s₂⟩ <;> rw [hs] at h
  · cases h
  · rcases hs₂ : Cursor.columnTypes s₂ with ⟨e | types, s₃⟩ <;> simp only [hs₂] at h
    · cases h
    · simpa [hs₂] using (Prod.mk.inj h).2.symm

/-- If all rows are had, then the first row is, since closing behind it succeeds as it does at the
end. -/
theorem first_of_all {script : CursorScript} (h : Follows s script) {v : d.Val} {more : List d.Val}
    (hall : (all d s).1 = .ok (v :: more)) : (first d s).1 = .ok v := by
  obtain ⟨p, s₁, s', hplan, hreads, hend⟩ := all_eq_ok_iff.1 hall
  have hwalks := h.walks
  rw [← plan_snd_of_ok hplan] at hwalks
  have hclosing : script.closing = .ok () := (close_of_reads hreads hwalks).symm.trans hend
  cases hreads with
  | row hnext hcurrent hmore =>
    have hleading := leading_eq_ok_iff.2 ⟨p, s₁, _, hplan, hnext, hcurrent⟩
    have hclose := (walks_of_row hwalks hnext hcurrent).1
    rw [first_eq, finish_eq_ok_iff, hleading]
    exact ⟨rfl, hclose.trans hclosing⟩

/-- Fetches of one row agree with the fetch of all rows. Whatever the cursor does, the only row is
had exactly if all rows are had and are this one. If all rows are had, the first of them is what
fetching the first row gives. Where no call fails and the columns can be planned, an empty result is
reported exactly if there is no row; the first row is what its values are bound to; and of several
rows the only one is asked for in vain: the outcome is the error of binding the first row or else
that there are several, whatever the others hold, and no row but the first is read. -/
theorem single_row_fetches_agree (d : Destination) {σ : Type} [Cursor σ] (s : σ) :
    (∀ v, (one d s).1 = .ok v ↔ (all d s).1 = .ok [v]) ∧
    (∀ script, Follows s script →
      ∀ v more, (all d s).1 = .ok (v :: more) → (first d s).1 = .ok v) ∧
    ∀ names types rows p, Follows s (.flawless names types rows) → d.plan names types = .ok p →
      ((one d s).1 = .error .emptyResult ↔ rows = []) ∧
      ((first d s).1 = .error .emptyResult ↔ rows = []) ∧
      ∀ values later, rows = values :: later →
        (first d s).1 = d.bind p values ∧
        (later ≠ [] →
          (one d s).1 = (match d.bind p values with
            | .error e => .error e
            | .ok _ => .error .multipleResults) ∧
          (one d (⟨s, []⟩ : Logged σ)).2.log.filter isScan = [.scan (.ok values)]) := by
  refine ⟨?only, ?first, ?flawless⟩
  case only =>
    intro v
    rw [one_eq_ok_iff, all_eq_ok_iff]
  case first =>
    intro script h v more hall
    exact first_of_all h hall
  case flawless =>
    intro names types rows p h hplan
    refine ⟨one_eq_emptyResult_iff h hplan, first_eq_emptyResult_iff h hplan, ?_⟩
    rintro values later rfl
    refine ⟨first_flawless h hplan, fun hlater => ?_⟩
    obtain ⟨hone, hscans⟩ := one_flawless_several h hplan hlater
    refine ⟨?_, hscans⟩
    rw [hone]
    cases d.bind p values <;> rfl

/-- Of two flags, all are fetched as they are, the first is fetched alone, and one row is refused
after a single read. -/
theorem single_row_fetches_agree_flags :
    let set : Scripted.ResultSet := { columns := ["done"], rows := [[.bool true], [.bool false]] }
    (all (.scalar .bool) set.cursor).1 = .ok [true, false] ∧
      (first (.scalar .bool) set.cursor).1 = .ok true ∧
      Follows set.cursor (.flawless ["done"] [] [[.bool true], [.bool false]]) ∧
      (one (.scalar .bool) set.cursor).1 = .error .multipleResults ∧
      (one (.scalar .bool) (⟨set.cursor, []⟩ : Logged Scripted.RowsCursor)).2.log.filter isScan =
        [.scan (.ok [.bool true])] := by
  intro set
  obtain ⟨-, hfirst, hflawless⟩ := single_row_fetches_agree (.scalar .bool) set.cursor
  have hall : (all (.scalar .bool) set.cursor).1 = .ok [true, false] :=
    all_eq_ok_iff.2 ⟨_, _, _, rfl, .row rfl rfl (.row rfl rfl (.ended rfl)), rfl⟩
  obtain ⟨script, hscript⟩ := set.exists_follows
  have hset : Follows set.cursor (.flawless ["done"] [] [[.bool true], [.bool false]]) :=
    ⟨rfl, rfl, .row rfl rfl rfl (.row rfl rfl rfl (.ended rfl rfl))⟩
  obtain ⟨-, -, hrow⟩ := hflawless _ _ _ _ hset rfl
  obtain ⟨hone, hscans⟩ := (hrow [.bool true] [[.bool false]] rfl).2 (by simp)
  exact ⟨hall, hfirst script hscript true [false] hall, hset, hone, hscans⟩

end Fetch

end SqlBinding
