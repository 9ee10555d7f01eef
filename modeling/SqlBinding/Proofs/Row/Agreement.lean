import SqlBinding.Proofs.Outcome
import SqlBinding.Proofs.Row.Fetching

/-!
# Fetches agree

All rows, all rows behind a list, the only row: the fetches go over the same cursor in loops of
their own, and come to outcomes that fit together.

A list in front of the rows changes nothing but itself (`collect_append`), so binding behind a list
is binding all rows and appending them if that succeeds (`into_eq`). Where rows are had, the cursor
has delivered them (`all_bound`). `Reads` says without a loop that rows are reached and bound up to
the end of the cursor; all rows and the only row are had exactly if it holds (`all_eq_ok_iff`,
`one_eq_ok_iff`).
-/

set_option autoImplicit false

namespace SqlBinding.Fetch

open Protocol

variable {σ : Type} [Cursor σ] {d : Destination} {p : RowPlan}

/-! ### Behind a list -/

/-- What binding rows to the end of a list comes to, if binding them all comes to an outcome: a list
that ends with the rows, or the same error and the list as it was. -/
def appended {α : Type} (dest : List α) : Except Error (List α) → Except Error Unit × List α
  | .ok rows => (.ok (), dest ++ rows)
  | .error e => (.error e, dest)

/-- Reading rows behind others puts these in front of what is read. -/
theorem rows_append (dest out : List d.Val) (s : σ) :
    rows d p (dest ++ out) s = (rows d p out s).map (·.map id (dest ++ ·)) id := by
  fun_induction rows d p out s with
  | case1 out s e s₁ h =>
    rw [rows_eq, h]
    rfl
  | case2 out s s₁ h =>
    rw [rows_eq, h]
    rfl
  | case3 out s s₁ h e s₂ hc =>
    rw [rows_eq, h]
    simp only [hc]
    rfl
  | case4 out s s₁ h row s₂ hc _ ih =>
    rw [rows_eq, h]
    simp only [hc]
    rw [List.append_assoc, ih]

/-- Collecting rows behind others puts these in front of what is collected. -/
theorem collect_append (dest : List d.Val) (s : σ) :
    collect d dest s = (collect d [] s).map (·.map id (dest ++ ·)) id := by
  unfold collect
  rcases plan d s with ⟨e | p, s₁⟩
  · show ((Except.error e, dest), s₁) = ((Except.error e, dest ++ []), s₁)
    rw [List.append_nil]
  · show rows d p dest s₁ = _
    rw [← rows_append dest [] s₁, List.append_nil]

/-- Binding behind a list makes of the cursor what binding all rows makes of it, and of the list
what the outcome demands. -/
theorem into_eq (dest : List d.Val) (s : σ) :
    into d dest s = (all d s).map (appended dest) id := by
  unfold into all
  rw [collect_append]
  rcases collect d [] s with ⟨⟨outcome, out⟩, s₁⟩
  simp only [Prod.map, id_eq, finish_eq]
  cases outcome with
  | error e =>
    -- the list is cut back, whatever has been appended before the error
    show ((Except.error e, (dest ++ out).take dest.length), _) = _
    rw [List.take_left]
    rfl
  | ok u =>
    cases (Cursor.close s₁).1 with
    | ok v => rfl
    | error c =>
      show ((Except.error (Error.cursorLeak c), (dest ++ out).take dest.length), _) = _
      rw [List.take_left]
      rfl

/-! ### The rows delivered -/

/-- Closing the cursor changes nothing about the rows that were bound. -/
theorem bound_close {k : Demand} {calls : List CursorEvent} {bound : List d.Val}
    (h : Bound k d calls bound) (answer : Except Error Unit) :
    Bound k d (calls ++ [.close answer]) bound := by
  obtain ⟨p, hplan, hvalues, hreached, hend⟩ := h
  refine ⟨p, planOf_append hplan, ?_, ?_, ?_⟩
  · simpa [valuesOf] using hvalues
  · simpa [reaches] using hreached
  · intro hk
    exact List.mem_append_left _ (hend hk)

/-- The rows of a fetch that succeeds are those which the cursor has delivered on the way, in its
order, each bound by the plan for its columns. -/
theorem all_bound {s : σ} {bound : List d.Val} (h : (all d s).1 = .ok bound) :
    Bound .all d (all d (⟨s, []⟩ : Logged σ)).2.log bound := by
  obtain ⟨calls, closing, hlogged, hobeys⟩ := keeps_all (d := d) s
  rw [hlogged]
  exact bound_close (hobeys.bound bound h) closing

/-! ### Rows up to the end -/

/-- All rows left are reached and bound one after the other, and then the cursor is at its end. -/
inductive Reads (d : Destination) (p : RowPlan) : σ → List d.Val → σ → Prop
  | ended {s s' : σ} (hnext : Cursor.next s = (.ok false, s')) : Reads d p s [] s'
  | row {s s₁ s₂ s' : σ} {v : d.Val} {more : List d.Val} (hnext : Cursor.next s = (.ok true, s₁))
      (hcurrent : current d p s₁ = (.ok v, s₂)) (hmore : Reads d p s₂ more s') :
      Reads d p s (v :: more) s'

/-- Rows that can be read are put behind those that are there. -/
theorem rows_of_reads {s s' : σ} {more : List d.Val} (h : Reads d p s more s')
    (out : List d.Val) : rows d p out s = ((.ok (), out ++ more), s') := by
  induction h generalizing out with
  | ended hnext => rw [rows_eq, hnext, List.append_nil]
  | row hnext hcurrent _ ih =>
    rw [rows_eq, hnext]
    simp only [hcurrent]
    rw [ih, List.append_assoc, List.singleton_append]

/-- What reading rows adds to a list are rows that can be read. -/
theorem exists_reads_of_rows {out bound : List d.Val} {s s' : σ}
    (h : rows d p out s = ((.ok (), bound), s')) :
    ∃ more, bound = out ++ more ∧ Reads d p s more s' := by
  fun_induction rows d p out s with
  | case1 out s e s₁ hn => cases h
  | case2 out s s₁ hn =>
    cases h
    exact ⟨[], (List.append_nil _).symm, .ended hn⟩
  | case3 out s s₁ hn e s₂ hc => cases h
  | case4 out s s₁ hn row s₂ hc _ ih =>
    obtain ⟨more, rfl, hmore⟩ := ih h
    exact ⟨row :: more, by rw [List.append_assoc, List.singleton_append], .row hn hc hmore⟩

/-- A fetch succeeds if it came to a value and the cursor closes without an error. -/
theorem finish_eq_ok_iff {α : Type} {outcome : Except Error α} {s : σ} {a : α} :
    (finish outcome s).1 = .ok a ↔ outcome = .ok a ∧ (Cursor.close s).1 = .ok () := by
  rw [finish_eq]
  exact settle_eq_ok_iff

/-- All rows are fetched by planning, reading to the end and closing. -/
theorem all_eq_ok_iff {s : σ} {bound : List d.Val} :
    (all d s).1 = .ok bound ↔ ∃ p s₁ s₂, plan d s = (.ok p, s₁) ∧ Reads d p s₁ bound s₂ ∧
      (Cursor.close s₂).1 = .ok () := by
  unfold all
  constructor
  · intro h
    rcases hc : collect d [] s with ⟨⟨outcome, out⟩, s₂⟩
    rw [hc] at h
    obtain ⟨houtcome, hclose⟩ := finish_eq_ok_iff.1 h
    obtain ⟨u, rfl, rfl⟩ := Outcome.map_eq_ok_iff.1 houtcome
    unfold collect at hc
    rcases hplan : plan d s with ⟨e | p, s₁⟩ <;> rw [hplan] at hc
    · cases hc
    · obtain ⟨more, rfl, hmore⟩ := exists_reads_of_rows hc
      exact ⟨p, s₁, s₂, rfl, hmore, hclose⟩
  · rintro ⟨p, s₁, s₂, hplan, hreads, hclose⟩
    have hc : collect d [] s = ((.ok (), bound), s₂) := by
      unfold collect
      rw [hplan]
      exact rows_of_reads hreads []
    rw [hc]
    exact finish_eq_ok_iff.2 ⟨rfl, hclose⟩

/-- The row that a cursor stands on is bound from the values that it reads there. -/
theorem current_eq_ok_iff {s s' : σ} {v : d.Val} :
    current d p s = (.ok v, s') ↔ ∃ values, Cursor.scan s = (.ok values, s') ∧
      d.bind p values = .ok v := by
  unfold current
  constructor
  · intro h
    rcases hscan : Cursor.scan s with ⟨e | values, s₁⟩ <;> rw [hscan] at h <;>
      obtain ⟨hbind, rfl⟩ := Prod.mk.inj h
    · cases hbind
    · exact ⟨values, rfl, hbind⟩
  · rintro ⟨values, hscan, hbind⟩
    simp only [hscan, hbind]

/-- The leading row is bound once the cursor has moved to it. -/
theorem leading_eq_ok_iff {s s' : σ} {v : d.Val} :
    leading d s = (.ok v, s') ↔ ∃ p s₁ s₂, plan d s = (.ok p, s₁) ∧
      Cursor.next s₁ = (.ok true, s₂) ∧ current d p s₂ = (.ok v, s') := by
  unfold leading
  constructor
  · intro h
    rcases hplan : plan d s with ⟨e | p, s₁⟩ <;> rw [hplan] at h
    · cases h
    · rcases hnext : Cursor.next s₁ with ⟨e | _ | _, s₂⟩ <;> simp only [hnext] at h
      · cases h
      · cases h
      · exact ⟨p, s₁, s₂, rfl, hnext, h⟩
  · rintro ⟨p, s₁, s₂, hplan, hnext, hcurrent⟩
    simp only [hplan, hnext, hcurrent]

/-- The only row is the leading one, behind which there is none. -/
theorem only_eq_ok_iff {s s' : σ} {v : d.Val} :
    only d s = (.ok v, s') ↔ ∃ s₁, leading d s = (.ok v, s₁) ∧
      Cursor.next s₁ = (.ok false, s') := by
  unfold only
  constructor
  · intro h
    rcases hleading : leading d s with ⟨e | w, s₁⟩ <;> rw [hleading] at h
    · cases h
    · rcases hnext : Cursor.next s₁ with ⟨e | _ | _, s₂⟩ <;> simp only [hnext] at h <;> cases h
      exact ⟨s₁, rfl, hnext⟩
  · rintro ⟨s₁, hleading, hnext⟩
    simp only [hleading, hnext]

/-- One row is fetched as the only one. -/
theorem one_eq (s : σ) : one d s = finish (only d s).1 (only d s).2 := rfl

/-- The first row is fetched as the leading one. -/
theorem first_eq (s : σ) : first d s = finish (leading d s).1 (leading d s).2 := rfl

/-- One row is fetched exactly if reading all rows gives this one. -/
theorem one_eq_ok_iff {s : σ} {v : d.Val} :
    (one d s).1 = .ok v ↔ ∃ p s₁ s₂, plan d s = (.ok p, s₁) ∧ Reads d p s₁ [v] s₂ ∧
      (Cursor.close s₂).1 = .ok () := by
  rw [one_eq, finish_eq_ok_iff]
  constructor
  · rintro ⟨honly, hclose⟩
    obtain ⟨s₃, hleading, hend⟩ := only_eq_ok_iff.1 (Prod.ext honly rfl)
    obtain ⟨p, s₁, s₄, hplan, hnext, hcurrent⟩ := leading_eq_ok_iff.1 hleading
    exact ⟨p, s₁, _, hplan, .row hnext hcurrent (.ended hend), hclose⟩
  · rintro ⟨p, s₁, s₂, hplan, hreads, hclose⟩
    cases hreads with
    | row hnext hcurrent hmore =>
      cases hmore with
      | ended hend =>
        have hleading := leading_eq_ok_iff.2 ⟨p, s₁, _, hplan, hnext, hcurrent⟩
        rw [only_eq_ok_iff.2 ⟨_, hleading, hend⟩]
        exact ⟨rfl, hclose⟩

end SqlBinding.Fetch
