import SqlBinding.Row.Cursor
import SqlBinding.Row.Destination

/-!
# Fetching the rows of a cursor

The four ways to bind a result set: all rows, all rows behind those of a list, the only row, and the
first row. Each plans the destination from the columns, binds row after row until something fails,
and closes the cursor on every way out. An error met earlier wins over a failure to close; a failure
to close after success is an error of its own.
-/

set_option autoImplicit false

namespace SqlBinding.Fetch

variable {σ : Type} [Cursor σ]

/-- Plans a destination for the result set of a cursor. -/
def plan (d : Destination) (s : σ) : Except Error RowPlan × σ :=
  match Cursor.columns s with
  | (.error e, s) => (.error e, s)
  | (.ok columns, s) =>
    match Cursor.columnTypes s with
    | (.error e, s) => (.error e, s)
    | (.ok types, s) => (d.plan columns types, s)

/-- Binds the row that the cursor stands on. -/
def current (d : Destination) (rowPlan : RowPlan) (s : σ) : Except Error d.Val × σ :=
  match Cursor.scan s with
  | (.error e, s) => (.error e, s)
  | (.ok values, s) => (d.bind rowPlan values, s)

/-- Binding a row adds no rows to the cursor. -/
theorem remaining_current (d : Destination) (rowPlan : RowPlan) (s : σ) :
    Cursor.remaining (current d rowPlan s).2 ≤ Cursor.remaining s := by
  have h := Cursor.scan_le s
  unfold current
  split <;> simp_all

/-- Binds row after row to the end of a list, which keeps the rows bound before an error. -/
def rows (d : Destination) (rowPlan : RowPlan) (out : List d.Val) (s : σ) :
    (Except Error Unit × List d.Val) × σ :=
  match h : Cursor.next s with
  | (.error e, s') => ((.error e, out), s')
  | (.ok false, s') => ((.ok (), out), s')
  | (.ok true, s') =>
    match hc : current d rowPlan s' with
    | (.error e, s'') => ((.error e, out), s'')
    | (.ok row, s'') =>
      have : Cursor.remaining s'' < Cursor.remaining s := by
        have hn := Cursor.next_lt s (by rw [h])
        have hs := remaining_current d rowPlan s'
        simp only [h, hc] at hn hs
        omega
      rows d rowPlan (out ++ [row]) s''
termination_by Cursor.remaining s

/-- Plans the destination and binds all rows to the end of a list. -/
def collect (d : Destination) (out : List d.Val) (s : σ) :
    (Except Error Unit × List d.Val) × σ :=
  match plan d s with
  | (.error e, s) => ((.error e, out), s)
  | (.ok rowPlan, s) => rows d rowPlan out s

/-- Plans the destination and binds the first row. -/
def leading (d : Destination) (s : σ) : Except Error d.Val × σ :=
  match plan d s with
  | (.error e, s) => (.error e, s)
  | (.ok rowPlan, s) =>
    match Cursor.next s with
    | (.error e, s) => (.error e, s)
    | (.ok false, s) => (.error .emptyResult, s)
    | (.ok true, s) => current d rowPlan s

/-- Plans the destination and binds the first row, unless there is a second. -/
def only (d : Destination) (s : σ) : Except Error d.Val × σ :=
  match leading d s with
  | (.error e, s) => (.error e, s)
  | (.ok row, s) =>
    match Cursor.next s with
    | (.error e, s) => (.error e, s)
    | (.ok true, s) => (.error .multipleResults, s)
    | (.ok false, s) => (.ok row, s)

/-- Closes the cursor after an outcome. -/
def finish {α : Type} (outcome : Except Error α) (s : σ) : Except Error α × σ :=
  match outcome, Cursor.close s with
  | .error e, (_, s) => (.error e, s)
  | .ok a, (.ok (), s) => (.ok a, s)
  | .ok _, (.error e, s) => (.error (.cursorLeak e), s)

/-- Binds all rows. -/
def all (d : Destination) (s : σ) : Except Error (List d.Val) × σ :=
  match collect d [] s with
  | ((outcome, out), s) => finish (outcome.map fun _ => out) s

/-- Binds all rows to the end of a list. After an error the list is cut back to what it was. -/
def into (d : Destination) (dest : List d.Val) (s : σ) :
    (Except Error Unit × List d.Val) × σ :=
  match collect d dest s with
  | ((outcome, out), s) =>
    match finish outcome s with
    | (.ok (), s) => ((.ok (), out), s)
    | (.error e, s) => ((.error e, out.take dest.length), s)

/-- Binds the only row. A second row is noticed without being read. -/
def one (d : Destination) (s : σ) : Except Error d.Val × σ :=
  match only d s with
  | (outcome, s) => finish outcome s

/-- Binds the first row and looks no further. -/
def first (d : Destination) (s : σ) : Except Error d.Val × σ :=
  match leading d s with
  | (outcome, s) => finish outcome s

end SqlBinding.Fetch
