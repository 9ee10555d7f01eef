import SqlBinding.Row.Fetch

/-!
# The protocol of a cursor

What a fetch may do with a cursor, and what it comes to, told from the calls that it has made and
the answers that it got. `Logged` wraps a cursor so that both are kept. `Obeys` is the protocol.

A fetch goes through phases (`Step`): it describes the columns, alternates between moving and
reading, and is over with rows or with an error. `Phase.Holds` is what the calls made so far say in
each phase. Every step keeps it (`Step.holds`) and makes a call that the protocol allows there
(`Phase.Makes.allowed`); hence a run that has come to an outcome obeys the protocol once the cursor
is closed (`Run.obeys`).
-/

set_option autoImplicit false

namespace SqlBinding

/-- A call made on a cursor, with the answer it got. -/
inductive CursorEvent
  | columns (answer : Except Error (List String))
  | columnTypes (answer : Except Error (List ColumnType))
  | next (answer : Except Error Bool)
  | scan (answer : Except Error (List ColumnValue))
  | close (answer : Except Error Unit)

/-- A cursor together with the calls made on it so far and their answers. -/
structure Logged (σ : Type) where
  state : σ
  log : List CursorEvent

namespace Logged

variable {σ α : Type}

/-- What a call or a run comes to, with its log. -/
def ofRun (run : α × σ) (log : List CursorEvent) : α × Logged σ :=
  (run.1, ⟨run.2, log⟩)

/-- Makes a call on the cursor and logs it with its answer. -/
def record (event : α → CursorEvent) (f : σ → α × σ) (t : Logged σ) : α × Logged σ :=
  ofRun (f t.state) (t.log ++ [event (f t.state).1])

instance [Cursor σ] : Cursor (Logged σ) where
  columns := record .columns Cursor.columns
  columnTypes := record .columnTypes Cursor.columnTypes
  next := record .next Cursor.next
  scan := record .scan Cursor.scan
  close := record .close Cursor.close
  remaining t := Cursor.remaining t.state
  next_lt t h := Cursor.next_lt t.state h
  scan_le t := Cursor.scan_le t.state

variable [Cursor σ]

/-- Asking a logged cursor for its columns logs the answer. -/
theorem columns_logged (s : σ) (log : List CursorEvent) :
    Cursor.columns (⟨s, log⟩ : Logged σ) =
      ofRun (Cursor.columns s) (log ++ [.columns (Cursor.columns s).1]) := rfl

/-- Asking a logged cursor for the types of its columns logs the answer. -/
theorem columnTypes_logged (s : σ) (log : List CursorEvent) :
    Cursor.columnTypes (⟨s, log⟩ : Logged σ) =
      ofRun (Cursor.columnTypes s) (log ++ [.columnTypes (Cursor.columnTypes s).1]) := rfl

/-- Moving a logged cursor on logs the answer. -/
theorem next_logged (s : σ) (log : List CursorEvent) :
    Cursor.next (⟨s, log⟩ : Logged σ) =
      ofRun (Cursor.next s) (log ++ [.next (Cursor.next s).1]) := rfl

/-- Reading a row of a logged cursor logs the answer. -/
theorem scan_logged (s : σ) (log : List CursorEvent) :
    Cursor.scan (⟨s, log⟩ : Logged σ) =
      ofRun (Cursor.scan s) (log ++ [.scan (Cursor.scan s).1]) := rfl

/-- Closing a logged cursor logs the answer. -/
theorem close_logged (s : σ) (log : List CursorEvent) :
    Cursor.close (⟨s, log⟩ : Logged σ) =
      ofRun (Cursor.close s) (log ++ [.close (Cursor.close s).1]) := rfl

end Logged

namespace Protocol

/-! ### What the calls made so far say -/

/-- The rows that a fetch is for. -/
inductive Demand
  | all
  | only
  | first
  deriving DecidableEq

/-- Whether a call has reached a row. -/
def reaches : CursorEvent → Bool
  | .next (.ok true) => true
  | _ => false

/-- The number of rows reached. -/
def reached (calls : List CursorEvent) : Nat :=
  calls.countP reaches

/-- The values that a call has read. -/
def valuesOf : CursorEvent → Option (List ColumnValue)
  | .scan (.ok values) => some values
  | _ => none

/-- The values of the rows read, row by row. -/
def scanned (calls : List CursorEvent) : List (List ColumnValue) :=
  calls.filterMap valuesOf

/-- What planning comes to, once the columns and what is known about them have been asked for. -/
def planOf (d : Destination) : List CursorEvent → Option (Except Error RowPlan)
  | .columns (.ok names) :: .columnTypes (.ok types) :: _ => some (d.plan names types)
  | _ => none

/-- The errors that a fetch meets at a call, after the calls before it: those of the cursor, those
of planning and of binding, and the number of rows being wrong. -/
inductive Meets (k : Demand) (d : Destination) (before : List CursorEvent) :
    CursorEvent → Error → Prop
  | columns (e : Error) : Meets k d before (.columns (.error e)) e
  | columnTypes (e : Error) : Meets k d before (.columnTypes (.error e)) e
  | next (e : Error) : Meets k d before (.next (.error e)) e
  | scan (e : Error) : Meets k d before (.scan (.error e)) e
  | planning (types : List ColumnType) (e : Error)
      (hplan : planOf d (before ++ [.columnTypes (.ok types)]) = some (.error e)) :
      Meets k d before (.columnTypes (.ok types)) e
  | binding (values : List ColumnValue) (rowPlan : RowPlan) (e : Error)
      (hplan : planOf d before = some (.ok rowPlan)) (hbind : d.bind rowPlan values = .error e) :
      Meets k d before (.scan (.ok values)) e
  | empty (hk : k ≠ .all) (hnone : reached before = 0) :
      Meets k d before (.next (.ok false)) .emptyResult
  | multiple (hk : k = .only) (hsome : reached before ≠ 0) :
      Meets k d before (.next (.ok true)) .multipleResults

/-- What holds of every call and of the calls before it. -/
def EveryCall (P : List CursorEvent → CursorEvent → Prop) (calls : List CursorEvent) : Prop :=
  ∀ before call after, calls = before ++ call :: after → P before call

/-- No call has met an error. -/
def Clean (k : Demand) (d : Destination) : List CursorEvent → Prop :=
  EveryCall fun before call => ∀ e, ¬Meets k d before call e

/-- The rows are those reached, each bound from the values read there by the plan that the columns
give, and unless the fetch stops at the first row there are no others. -/
def Bound (k : Demand) (d : Destination) (calls : List CursorEvent) (rows : List d.Val) : Prop :=
  ∃ rowPlan, planOf d calls = some (.ok rowPlan) ∧
    (scanned calls).map (d.bind rowPlan) = rows.map .ok ∧
    reached calls = rows.length ∧
    (k ≠ .first → .next (.ok false) ∈ calls)

/-- What the protocol says of a fetch that makes some calls on a cursor, closes it and comes to an
outcome. -/
structure Obeys (k : Demand) (d : Destination) (calls : List CursorEvent)
    (closing : Except Error Unit) (outcome : Except Error (List d.Val)) : Prop where
  /-- The cursor has not been closed before. -/
  not_closed : ∀ answer, .close answer ∉ calls
  /-- The cursor moves only after planning has succeeded. -/
  next_planned : ∀ before answer after, calls = before ++ .next answer :: after →
    ∃ rowPlan, planOf d before = some (.ok rowPlan)
  /-- The cursor moves neither behind its last row nor after an error. -/
  next_live : ∀ before answer after, calls = before ++ .next answer :: after →
    .next (.ok false) ∉ before ∧ Clean k d before
  /-- A row is read directly after it has been reached. -/
  scan_reached : ∀ before answer after, calls = before ++ .scan answer :: after →
    ∃ earlier, before = earlier ++ [.next (.ok true)]
  /-- An error ends the fetch, which comes to it however the cursor closes. -/
  error_met : ∀ before call after e, calls = before ++ call :: after → Meets k d before call e →
    after = [] ∧ outcome = .error e
  /-- Where nothing else failed, the outcome is a leak exactly if the cursor fails to close. -/
  leak_iff : Clean k d calls → ∀ c, outcome = .error (.cursorLeak c) ↔ closing = .error c
  /-- There are rows exactly if nothing failed. -/
  ok_iff : (∃ rows, outcome = .ok rows) ↔ Clean k d calls ∧ closing = .ok ()
  /-- The rows are the ones bound. -/
  bound : ∀ rows, outcome = .ok rows → Bound k d calls rows

section Calls

variable {k : Demand} {d : Destination} {P : List CursorEvent → CursorEvent → Prop}
  {calls more : List CursorEvent} {call : CursorEvent}

/-- Of no calls, anything holds. -/
theorem everyCall_nil : EveryCall P [] := by
  intro before call after h
  simp at h

/-- What holds of some calls and of the one behind them holds of all. -/
theorem EveryCall.snoc (hcalls : EveryCall P calls) (hcall : P calls call) :
    EveryCall P (calls ++ [call]) := by
  intro before c after h
  rcases List.eq_nil_or_concat after with rfl | ⟨after, last, rfl⟩
  · obtain ⟨rfl, hc⟩ := List.append_inj' h rfl
    cases hc
    exact hcall
  · rw [List.concat_eq_append, ← List.cons_append, ← List.append_assoc] at h
    exact hcalls before c after (List.append_inj' h rfl).1

/-- Rows are reached by the first calls and then by the rest. -/
@[simp]
theorem reached_append : reached (calls ++ more) = reached calls + reached more :=
  List.countP_append

/-- Values are read by the first calls and then by the rest. -/
@[simp]
theorem scanned_append : scanned (calls ++ more) = scanned calls ++ scanned more :=
  List.filterMap_append

/-- One call reaches one row at most. -/
@[simp]
theorem reached_singleton : reached [call] = if reaches call then 1 else 0 := by
  cases h : reaches call <;> simp [reached, h]

/-- One call reads the values of one row at most. -/
@[simp]
theorem scanned_singleton : scanned [call] = (valuesOf call).toList := by
  cases h : valuesOf call <;> simp [scanned, h]

/-- Later calls do not change the plan. -/
theorem planOf_append {plan : Except Error RowPlan} (h : planOf d calls = some plan) :
    planOf d (calls ++ more) = some plan := by
  unfold planOf at h
  split at h
  · simpa [planOf] using h
  · cases h

end Calls

/-! ### Phases -/

/-- How far a fetch has come: nothing is known yet, the names of the columns are, it can move on, it
stands on a row, or it is over. -/
inductive Phase (d : Destination)
  | opened
  | named (names : List String)
  | ready (rowPlan : RowPlan) (rows : List d.Val)
  | onRow (rowPlan : RowPlan) (rows : List d.Val)
  | over (outcome : Except Error (List d.Val))

variable {k : Demand} {d : Destination}

/-- The calls that a fetch makes in a phase, whatever the answer. -/
inductive Phase.Makes {d : Destination} : Phase d → CursorEvent → Prop
  | columns (answer : Except Error (List String)) : Makes .opened (.columns answer)
  | columnTypes (names : List String) (answer : Except Error (List ColumnType)) :
      Makes (.named names) (.columnTypes answer)
  | next (p : RowPlan) (rows : List d.Val) (answer : Except Error Bool) :
      Makes (.ready p rows) (.next answer)
  | scan (p : RowPlan) (rows : List d.Val) (answer : Except Error (List ColumnValue)) :
      Makes (.onRow p rows) (.scan answer)

/-- The errors that end a phase. -/
inductive Phase.Fails (k : Demand) {d : Destination} : Phase d → CursorEvent → Error → Prop
  | columns (e : Error) : Fails k .opened (.columns (.error e)) e
  | columnTypes (names : List String) (e : Error) :
      Fails k (.named names) (.columnTypes (.error e)) e
  | planning {names : List String} {types : List ColumnType} {e : Error}
      (h : d.plan names types = .error e) : Fails k (.named names) (.columnTypes (.ok types)) e
  | next (p : RowPlan) (rows : List d.Val) (e : Error) :
      Fails k (.ready p rows) (.next (.error e)) e
  | scan (p : RowPlan) (rows : List d.Val) (e : Error) :
      Fails k (.onRow p rows) (.scan (.error e)) e
  | binding {p : RowPlan} (rows : List d.Val) {values : List ColumnValue} {e : Error}
      (h : d.bind p values = .error e) : Fails k (.onRow p rows) (.scan (.ok values)) e
  | empty (p : RowPlan) (hk : k ≠ .all) : Fails k (.ready p []) (.next (.ok false)) .emptyResult
  | multiple (p : RowPlan) {rows : List d.Val} (hk : k = .only) (hrows : rows ≠ []) :
      Fails k (.ready p rows) (.next (.ok true)) .multipleResults

/-- The calls by which a fetch comes from one phase to the next. -/
inductive Step (k : Demand) {d : Destination} : Phase d → CursorEvent → Phase d → Prop
  | described (names : List String) : Step k .opened (.columns (.ok names)) (.named names)
  | planned {names : List String} {types : List ColumnType} {p : RowPlan}
      (h : d.plan names types = .ok p) :
      Step k (.named names) (.columnTypes (.ok types)) (.ready p [])
  | advanced (p : RowPlan) {rows : List d.Val} (h : k = .only → rows = []) :
      Step k (.ready p rows) (.next (.ok true)) (.onRow p rows)
  | bound {p : RowPlan} (rows : List d.Val) {values : List ColumnValue} {row : d.Val}
      (hk : k ≠ .first) (h : d.bind p values = .ok row) :
      Step k (.onRow p rows) (.scan (.ok values)) (.ready p (rows ++ [row]))
  | satisfied {p : RowPlan} (rows : List d.Val) {values : List ColumnValue} {row : d.Val}
      (hk : k = .first) (h : d.bind p values = .ok row) :
      Step k (.onRow p rows) (.scan (.ok values)) (.over (.ok (rows ++ [row])))
  | exhausted (p : RowPlan) {rows : List d.Val} (h : k ≠ .all → rows ≠ []) :
      Step k (.ready p rows) (.next (.ok false)) (.over (.ok rows))
  | failed {phase : Phase d} {call : CursorEvent} {e : Error} (h : phase.Fails k call e) :
      Step k phase call (.over (.error e))

/-- The calls that lead a fetch from one phase to another, step by step. -/
inductive Run (k : Demand) {d : Destination} : Phase d → List CursorEvent → Phase d → Prop
  | refl (phase : Phase d) : Run k phase [] phase
  | cons {phase phase₁ phase₂ : Phase d} {call : CursorEvent} {calls : List CursorEvent}
      (hcall : Step k phase call phase₁) (hcalls : Run k phase₁ calls phase₂) :
      Run k phase (call :: calls) phase₂

/-- A step is made by a call of its phase. -/
theorem Step.makes {phase phase₁ : Phase d} {call : CursorEvent} (h : Step k phase call phase₁) :
    phase.Makes call := by
  cases h with
  | failed h => cases h <;> constructor
  | _ => constructor

/-- A step is a run of one call. -/
theorem Run.single {phase phase₁ : Phase d} {call : CursorEvent} (h : Step k phase call phase₁) :
    Run k phase [call] phase₁ :=
  .cons h (.refl phase₁)

/-- Two runs are one, if the second begins where the first ends. -/
theorem Run.append {phase phase₁ phase₂ : Phase d} {calls more : List CursorEvent}
    (hcalls : Run k phase calls phase₁) (hmore : Run k phase₁ more phase₂) :
    Run k phase (calls ++ more) phase₂ := by
  induction hcalls with
  | refl => exact hmore
  | cons hcall _ ih => exact .cons hcall (ih hmore)

/-! ### What holds in each phase -/

/-- What the calls made so far say while rows are read: no error was met, the plan is the one that
the columns give, the cursor is not behind its last row, and the rows are bound from the values
read. -/
structure Reading (k : Demand) (d : Destination) (rowPlan : RowPlan) (rows : List d.Val)
    (calls : List CursorEvent) : Prop where
  clean : Clean k d calls
  plan : planOf d calls = some (.ok rowPlan)
  unfinished : .next (.ok false) ∉ calls
  bound : (scanned calls).map (d.bind rowPlan) = rows.map .ok

/-- What the calls made so far say in a phase. -/
def Phase.Holds (k : Demand) {d : Destination} : Phase d → List CursorEvent → Prop
  | .opened, calls => calls = []
  | .named names, calls => calls = [.columns (.ok names)]
  | .ready p rows, calls => Reading k d p rows calls ∧ reached calls = rows.length
  | .onRow p rows, calls => Reading k d p rows calls ∧ reached calls = rows.length + 1 ∧
      ∃ earlier, calls = earlier ++ [.next (.ok true)]
  | .over (.ok rows), calls => Clean k d calls ∧ Bound k d calls rows
  | .over (.error e), calls => ∃ before call, calls = before ++ [call] ∧ Meets k d before call e

/-- The calls that the protocol allows after those made before. -/
def Allowed (k : Demand) (d : Destination) (before : List CursorEvent) (call : CursorEvent) :
    Prop :=
  Clean k d before ∧
    match call with
    | .next _ => (∃ rowPlan, planOf d before = some (.ok rowPlan)) ∧ .next (.ok false) ∉ before
    | .scan _ => ∃ earlier, before = earlier ++ [.next (.ok true)]
    | .close _ => False
    | _ => True

section Steps

variable {phase phase₁ : Phase d} {calls : List CursorEvent} {call : CursorEvent} {e : Error}

/-- Names of columns are no error. -/
theorem clean_columns (names : List String) : Clean k d [.columns (.ok names)] := by
  have hnone : Clean k d [] := everyCall_nil
  apply hnone.snoc
  intro e h
  cases h

/-- No call is made once an error was met or the cursor is known to be at its end. -/
theorem Phase.Makes.allowed (h : phase.Makes call) (hphase : phase.Holds k calls) :
    Allowed k d calls call := by
  cases h with
  | columns => exact ⟨hphase ▸ everyCall_nil, trivial⟩
  | columnTypes => exact ⟨hphase ▸ clean_columns _, trivial⟩
  | next =>
    obtain ⟨hreading, -⟩ := hphase
    exact ⟨hreading.clean, ⟨_, hreading.plan⟩, hreading.unfinished⟩
  | scan =>
    obtain ⟨hreading, -, hearlier⟩ := hphase
    exact ⟨hreading.clean, hearlier⟩

/-- An error that ends a phase is one that the fetch meets. -/
theorem Phase.Fails.meets (h : phase.Fails k call e) (hphase : phase.Holds k calls) :
    Meets k d calls call e := by
  cases h with
  | columns => exact .columns e
  | columnTypes => exact .columnTypes e
  | planning h =>
    subst hphase
    exact .planning _ e (congrArg some h)
  | next => exact .next e
  | scan => exact .scan e
  | binding rows h => exact .binding _ _ e hphase.1.plan h
  | empty p hk => exact .empty hk hphase.2
  | multiple p hk hrows =>
    apply Meets.multiple hk
    rw [hphase.2]
    exact fun h => hrows (List.length_eq_zero_iff.1 h)

/-- Moving on to a row keeps what has been read, and reading the row adds to it. -/
theorem Reading.next {p : RowPlan} {rows : List d.Val} (h : Reading k d p rows calls)
    (hmeets : ∀ e, ¬Meets k d calls (.next (.ok true)) e) :
    Reading k d p rows (calls ++ [.next (.ok true)]) where
  clean := h.clean.snoc hmeets
  plan := planOf_append h.plan
  unfinished := by simpa using h.unfinished
  bound := by simpa [valuesOf] using h.bound

/-- A row whose values are read and bound is added to the rows. -/
theorem Reading.scan {p : RowPlan} {rows : List d.Val} {values : List ColumnValue} {row : d.Val}
    (h : Reading k d p rows calls) (hbind : d.bind p values = .ok row) :
    Reading k d p (rows ++ [row]) (calls ++ [.scan (.ok values)]) where
  clean := by
    apply h.clean.snoc
    intro e hmeets
    cases hmeets with
    | binding _ p' _ hplan he =>
      rw [h.plan] at hplan
      cases hplan
      rw [hbind] at he
      cases he
  plan := planOf_append h.plan
  unfinished := by simpa using h.unfinished
  bound := by simp [h.bound, valuesOf, hbind]

/-- A step keeps true what the calls say of its phase. -/
theorem Step.holds (h : Step k phase call phase₁) (hphase : phase.Holds k calls) :
    phase₁.Holds k (calls ++ [call]) := by
  cases h with
  | described names =>
    show calls ++ _ = _
    rw [show calls = [] from hphase, List.nil_append]
  | planned h =>
    subst hphase
    refine ⟨⟨?_, congrArg some h, by simp, rfl⟩, rfl⟩
    apply (clean_columns _).snoc
    intro e hmeets
    cases hmeets with
    | planning _ _ hplan => simp [planOf, h] at hplan
  | advanced p h =>
    obtain ⟨hreading, hreached⟩ := hphase
    refine ⟨hreading.next ?_, by simp [hreached, reaches], calls, rfl⟩
    intro e hmeets
    cases hmeets with
    | multiple hk hsome =>
      -- where one row is asked for, this one is the first
      simp [hreached, h hk] at hsome
  | bound rows hk h =>
    obtain ⟨hreading, hreached, -⟩ := hphase
    exact ⟨hreading.scan h, by simp [hreached, reaches]⟩
  | satisfied rows hk h =>
    obtain ⟨hreading, hreached, -⟩ := hphase
    have hscan := hreading.scan h
    exact ⟨hscan.clean, _, hscan.plan, hscan.bound, by simp [hreached, reaches],
      fun hne => absurd hk hne⟩
  | exhausted p h =>
    obtain ⟨hreading, hreached⟩ := hphase
    refine ⟨hreading.clean.snoc ?_, p, planOf_append hreading.plan, ?_, ?_, ?_⟩
    · intro e hmeets
      cases hmeets with
      | empty hk hnone =>
        rw [hreached, List.length_eq_zero_iff] at hnone
        exact h hk hnone
    · simpa [valuesOf] using hreading.bound
    · simp [hreached, reaches]
    · intro _
      simp
  | failed h => exact ⟨calls, call, rfl, h.meets hphase⟩

/-- A run keeps true what the calls say of its phase, and makes allowed calls only. -/
theorem Run.holds {more : List CursorEvent} (h : Run k phase more phase₁)
    (hphase : phase.Holds k calls) (hcalls : EveryCall (Allowed k d) calls) :
    phase₁.Holds k (calls ++ more) ∧ EveryCall (Allowed k d) (calls ++ more) := by
  induction h generalizing calls with
  | refl => simpa using ⟨hphase, hcalls⟩
  | cons hcall _ ih =>
    rw [List.append_cons]
    exact ih (hcall.holds hphase) (hcalls.snoc (hcall.makes.allowed hphase))

end Steps

/-! ### The protocol -/

/-- What an outcome becomes when the cursor closes. -/
def settle {α : Type} : Except Error α → Except Error Unit → Except Error α
  | .error e, _ => .error e
  | .ok a, .ok () => .ok a
  | .ok _, .error c => .error (.cursorLeak c)

/-- An outcome stays a success if the cursor closes without an error. -/
theorem settle_eq_ok_iff {α : Type} {outcome : Except Error α} {closing : Except Error Unit}
    {a : α} : settle outcome closing = .ok a ↔ outcome = .ok a ∧ closing = .ok () := by
  cases outcome <;> cases closing <;> simp [settle]

section Over

variable {calls : List CursorEvent} {outcome : Except Error (List d.Val)}

/-- At one call, only one error is met. -/
theorem Meets.unique {before : List CursorEvent} {call : CursorEvent} {e e' : Error}
    (h : Meets k d before call e) (h' : Meets k d before call e') : e = e' := by
  cases h with
  | planning types e hplan =>
    cases h' with
    | planning _ _ hplan' =>
      rw [hplan] at hplan'
      cases hplan'
      rfl
  | binding values p e hplan hbind =>
    cases h' with
    | binding _ _ _ hplan' hbind' =>
      rw [hplan] at hplan'
      cases hplan'
      rw [hbind] at hbind'
      cases hbind'
      rfl
  | _ => cases h'; rfl

/-- A fetch that has met no error has come to rows. -/
theorem ok_of_clean (hover : (Phase.over outcome).Holds k calls) (hclean : Clean k d calls) :
    ∃ rows, outcome = .ok rows := by
  cases outcome with
  | ok rows => exact ⟨rows, rfl⟩
  | error e =>
    obtain ⟨before, call, hcalls, hmeets⟩ := hover
    exact absurd hmeets (hclean before call [] hcalls e)

/-- A fetch ends with the call that meets an error, and with that error. -/
theorem error_of_meets (hover : (Phase.over outcome).Holds k calls)
    (hallowed : EveryCall (Allowed k d) calls) {before after : List CursorEvent}
    {call : CursorEvent} {e : Error} (hcalls : calls = before ++ call :: after)
    (hmeets : Meets k d before call e) : after = [] ∧ outcome = .error e := by
  have hafter : after = [] := by
    cases after with
    | nil => rfl
    | cons next after =>
      -- the next call would be one after an error
      rw [List.append_cons] at hcalls
      obtain ⟨hclean, -⟩ := hallowed _ next after hcalls
      exact absurd hmeets (hclean before call [] rfl e)
  subst hafter
  refine ⟨rfl, ?_⟩
  cases outcome with
  | ok rows => exact absurd hmeets (hover.1 before call [] hcalls e)
  | error e' =>
    obtain ⟨before', call', hcalls', hmeets'⟩ := hover
    rw [hcalls] at hcalls'
    obtain ⟨rfl, hcall⟩ := List.append_inj' hcalls' rfl
    cases hcall
    rw [hmeets.unique hmeets']

/-- A run that has come to an outcome obeys the protocol, once the cursor is closed. -/
theorem Run.obeys (h : Run k .opened calls (.over outcome)) (closing : Except Error Unit) :
    Obeys k d calls closing (settle outcome closing) := by
  have hopened : (Phase.opened : Phase d).Holds k [] := rfl
  obtain ⟨hover, hallowed⟩ := h.holds hopened everyCall_nil
  rw [List.nil_append] at hover hallowed
  constructor
  case not_closed =>
    intro answer hmem
    obtain ⟨before, after, hcalls⟩ := List.append_of_mem hmem
    exact (hallowed before _ after hcalls).2
  case next_planned =>
    intro before answer after hcalls
    exact (hallowed before _ after hcalls).2.1
  case next_live =>
    intro before answer after hcalls
    obtain ⟨hclean, -, hunfinished⟩ := hallowed before _ after hcalls
    exact ⟨hunfinished, hclean⟩
  case scan_reached =>
    intro before answer after hcalls
    exact (hallowed before _ after hcalls).2
  case error_met =>
    intro before call after e hcalls hmeets
    obtain ⟨hafter, houtcome⟩ := error_of_meets hover hallowed hcalls hmeets
    exact ⟨hafter, by rw [houtcome, settle]⟩
  case leak_iff =>
    intro hclean c
    obtain ⟨rows, rfl⟩ := ok_of_clean hover hclean
    cases closing <;> simp [settle]
  case ok_iff =>
    simp only [settle_eq_ok_iff]
    constructor
    · rintro ⟨rows, rfl, hclosing⟩
      exact ⟨hover.1, hclosing⟩
    · rintro ⟨hclean, hclosing⟩
      obtain ⟨rows, hrows⟩ := ok_of_clean hover hclean
      exact ⟨rows, hrows, hclosing⟩
  case bound =>
    intro rows hrows
    obtain ⟨rfl, -⟩ := settle_eq_ok_iff.1 hrows
    exact hover.2

end Over

end Protocol

end SqlBinding
