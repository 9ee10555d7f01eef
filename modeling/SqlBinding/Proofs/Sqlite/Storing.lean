import Mathlib.Data.List.Forall2
import SqlBinding.Proofs.Numeric.DecimalText
import SqlBinding.Sqlite.Store

/-!
# Rows that go in behind the others

A table no column of which holds ids or demands a value takes every row, as long as there are ids
left: the row goes behind the others under the next id (`insert_plain`). So an insertion of several
rows adds them in their order if it succeeds (`insertAll_eq_ok`), and succeeds if there are ids for
all of them (`exists_insertAll_eq_ok`).
-/

set_option autoImplicit false

namespace SqlBinding.Sqlite

open Numeric

namespace Table

/-- No column holds ids, must be unique or demands a value. -/
def Plain (t : Table) : Prop := ∀ c ∈ t.columns, c.primaryKey = false ∧ c.notNull = false

/-- The ids of rows are the numbers from 1 on. -/
def Counted (rows : List Row) : Prop :=
  rows.map (fun r => r.id.val) = (List.range rows.length).map fun k : Nat => (k : Int) + 1

/-- The columns store the values given for some of them as these cells. -/
def Stores (columns : List ColumnDef) (names : List String) (values cells : List Cell) : Prop :=
  columns.map (fun c => c.affinity.store (given names values c)) = cells

variable {t : Table} {rows : List Row} {r : Row}

/-- No rows have the ids up to their number. -/
theorem counted_nil : Counted [] := rfl

/-- Rows stay counted with a row that has the next id. -/
theorem Counted.snoc (h : Counted rows) (hr : r.id.val = (rows.length : Int) + 1) :
    Counted (rows ++ [r]) := by
  rw [Counted] at h ⊢
  rw [List.map_append, h, List.length_append, List.length_singleton, List.range_succ,
    List.map_append, List.map_singleton, List.map_singleton, hr]

/-- The last of counted rows has their number as its id. -/
theorem Counted.last_id (h : Counted (rows ++ [r])) : r.id.val = (rows.length : Int) + 1 := by
  rw [Counted, List.length_append, List.length_singleton, List.range_succ, List.map_append,
    List.map_append] at h
  simpa using (List.append_inj' h rfl).2

/-- No id of counted rows is greater than their number. -/
theorem Counted.id_le (h : Counted rows) (hr : r ∈ rows) : r.id.val ≤ rows.length := by
  have hmem := List.mem_map_of_mem (f := fun r : Row => r.id.val) hr
  rw [h] at hmem
  obtain ⟨k, hk, hid⟩ := List.mem_map.1 hmem
  have hlt := List.mem_range.1 hk
  omega

/-- The next id of counted rows follows their number, if there is such an id. -/
theorem Counted.nextId?_eq (h : Counted t.rows) :
    t.nextId? = IntKind.i64.ofInt? (t.rows.length + 1) := by
  rcases List.eq_nil_or_concat t.rows with hrows | ⟨rows, r, hrows⟩
  · rw [nextId?, hrows]
    rfl
  · rw [List.concat_eq_append] at hrows
    rw [hrows] at h
    simp [nextId?, hrows, h.last_id]

/-- A row with the greatest id is placed last. -/
theorem place_append (h : ∀ s ∈ rows, s.id.val ≤ r.id.val) : place r rows = rows ++ [r] := by
  induction rows with
  | nil => rfl
  | cons s rows ih =>
    have hs := h s (List.mem_cons_self ..)
    rw [place, if_neg (by omega), ih fun s' hs' => h s' (List.mem_cons_of_mem s hs'),
      List.cons_append]

/-- A plain table has no column of ids. -/
theorem Plain.idIndex?_eq (h : t.Plain) : t.idIndex? = none := by
  apply List.findIdx?_eq_none_iff.2
  intro c hc
  simp [ColumnDef.isId, (h c hc).1]

/-- A plain table demands no value. -/
theorem Plain.filled_eq (h : t.Plain) (cells : List Cell) : t.filled cells = true := by
  apply List.all_eq_true.2
  rintro ⟨c, v⟩ hmem
  simp [(h c (List.of_mem_zip hmem).1).2]

/-- A row with a new id has nothing in common with others that a plain table forbids. -/
theorem Plain.unique_eq (h : t.Plain) (hnew : ∀ s ∈ t.rows, s.id ≠ r.id) : t.unique r = true := by
  apply List.all_eq_true.2
  intro s hs
  have hfree : (t.columns.zip (s.cells.zip r.cells)).all
      (fun p => !(p.1.primaryKey && p.2.1.equal p.2.2)) = true := by
    apply List.all_eq_true.2
    rintro ⟨c, old, new⟩ hmem
    simp [(h c (List.of_mem_zip hmem).1).1]
  simp only [Bool.and_eq_true, bne_iff_ne]
  exact ⟨hnew s hs, hfree⟩

/-- A row goes in behind the others under the next id. -/
theorem insert_plain (hplain : t.Plain) (hcounted : Counted t.rows) {names : List String}
    {values cells : List Cell} (hstores : Stores t.columns names values cells) :
    t.insert names values =
      match IntKind.i64.ofInt? (t.rows.length + 1) with
      | some id => .ok ({ t with rows := t.rows ++ [⟨id, cells⟩] }, ⟨id, cells⟩)
      | none => .error .badId := by
  rw [Stores] at hstores
  rw [insert, hstores, rowOf, hplain.idIndex?_eq, hcounted.nextId?_eq]
  cases hid : IntKind.i64.ofInt? (t.rows.length + 1) with
  | none => rfl
  | some id =>
    have hval : id.val = (t.rows.length : Int) + 1 := IntKind.ofInt?_eq_some_iff.1 hid
    have hle (s : Row) (hs : s ∈ t.rows) : s.id.val < id.val := by
      have := hcounted.id_le hs
      omega
    have hadd : t.add ⟨id, cells⟩ = .ok { t with rows := t.rows ++ [⟨id, cells⟩] } := by
      have hnew : t.unique ⟨id, cells⟩ = true := hplain.unique_eq fun s hs heq => by
        have hlt := hle s hs
        rw [heq] at hlt
        exact absurd hlt (Int.lt_irrefl _)
      rw [add, hplain.filled_eq, hnew, place_append fun s hs => Int.le_of_lt (hle s hs)]
      rfl
    show (t.add ⟨id, cells⟩ >>= fun t => _) = _
    rw [hadd]
    rfl

section

variable {columns : List ColumnDef} {names : List String} {given stored : List (List Cell)}

/-- An insertion that succeeds has put its rows behind the others, one after the other. -/
theorem insertAll_eq_ok (hstores : List.Forall₂ (Stores columns names) given stored)
    (hcolumns : t.columns = columns) (hplain : t.Plain) (hcounted : Counted t.rows) {t' : Table}
    {added : List Row} {lastId lastId' : I64}
    (h : insertAll names given t lastId = (.ok (t', added), lastId')) :
    t' = { t with rows := t.rows ++ added } ∧ added.map Row.cells = stored := by
  induction hstores generalizing t lastId added with
  | nil =>
    cases h
    exact ⟨by rw [List.append_nil], rfl⟩
  | @cons values cells given stored hvalues hrest ih =>
    rw [insertAll, insert_plain hplain hcounted (hcolumns ▸ hvalues)] at h
    cases hid : IntKind.i64.ofInt? (t.rows.length + 1) with
    | none =>
      rw [hid] at h
      cases h
    | some id =>
      -- The ids still count the rows, so the next row goes behind this one.
      have hnext : Counted (t.rows ++ [⟨id, cells⟩]) :=
        hcounted.snoc (IntKind.ofInt?_eq_some_iff.1 hid)
      rw [hid] at h
      dsimp only at h
      rcases hmore : insertAll names given { t with rows := t.rows ++ [⟨id, cells⟩] } id with
        ⟨e | ⟨t'', rows⟩, lastId''⟩
      · rw [hmore] at h
        cases h
      · rw [hmore] at h
        cases h
        obtain ⟨ht', hrows⟩ :=
          ih (t := { t with rows := t.rows ++ [⟨id, cells⟩] }) hcolumns hplain hnext hmore
        refine ⟨?_, by rw [List.map_cons, hrows]⟩
        rw [ht', List.append_assoc, List.singleton_append]

/-- An insertion succeeds if there are ids for all of its rows. -/
theorem exists_insertAll_eq_ok (hstores : List.Forall₂ (Stores columns names) given stored)
    (hcolumns : t.columns = columns) (hplain : t.Plain) (hcounted : Counted t.rows)
    (hfits : t.rows.length + stored.length ≤ IntKind.i64.maxNat) (lastId : I64) :
    ∃ t' added lastId', insertAll names given t lastId = (.ok (t', added), lastId') := by
  induction hstores generalizing t lastId with
  | nil => exact ⟨_, _, _, rfl⟩
  | @cons values cells given stored hvalues hrest ih =>
    rw [List.length_cons] at hfits
    have hrange : -(IntKind.i64.minMagnitude : Int) ≤ (t.rows.length : Int) + 1 ∧
        (t.rows.length : Int) + 1 ≤ (IntKind.i64.maxNat : Int) := by omega
    have hid : IntKind.i64.ofInt? (t.rows.length + 1) = some ⟨_, hrange.1, hrange.2⟩ :=
      IntKind.ofInt?_eq_some_iff.2 rfl
    have hmorefits : (t.rows ++ [Row.mk ⟨_, hrange.1, hrange.2⟩ cells]).length + stored.length ≤
        IntKind.i64.maxNat := by
      rw [List.length_append, List.length_singleton]
      omega
    obtain ⟨t', added, lastId', hmore⟩ :=
      ih (t := { t with rows := t.rows ++ [⟨⟨_, hrange.1, hrange.2⟩, cells⟩] })
        hcolumns hplain (hcounted.snoc rfl) hmorefits ⟨_, hrange.1, hrange.2⟩
    rw [insertAll, insert_plain hplain hcounted (hcolumns ▸ hvalues), hid]
    simp only [hmore]
    exact ⟨_, _, _, rfl⟩

end

end Table

namespace Store

variable {s : Store} {name : String} {t t' : Table}

/-- A table that is told of by its name is among the tables. -/
theorem find?_of_table (h : s.table name = .ok t) :
    s.tables.find? (fun u => sameName u.name name) = some t := by
  unfold table at h
  split at h
  · cases h
    assumption
  · cases h

/-- What takes the place of all that is searched for is what is found. -/
theorem find?_map_replaced {p : Table → Bool} {tables : List Table}
    (h : tables.find? p = some t) (ht' : p t' = true) :
    (tables.map fun u => if p u then t' else u).find? p = some t' := by
  induction tables with
  | nil => cases h
  | cons u tables ih =>
    rw [List.map_cons]
    by_cases hu : p u
    · rw [if_pos hu, List.find?_cons_of_pos ht']
    · rw [if_neg hu, List.find?_cons_of_neg hu]
      rw [List.find?_cons_of_neg hu] at h
      exact ih h

/-- A table that takes the place of another is found under its name. -/
theorem table_replace (h : s.table name = .ok t) (hname : t'.name = t.name) :
    (s.replace t').table name = .ok t' := by
  have hfind := find?_of_table h
  -- Names are compared without regard to case: the table may be spelled otherwise than `name`.
  have hsame (u : Table) : sameName u.name t'.name = sameName u.name name := by
    have ht := List.find?_some hfind
    simp only [sameName, beq_iff_eq] at ht
    simp only [sameName, hname, ht]
  have ht' : sameName t'.name name := by
    rw [← hsame]
    simp [sameName]
  have hreplaced : (s.replace t').tables.find? (fun u => sameName u.name name) = some t' := by
    simp only [replace, hsame]
    exact find?_map_replaced hfind ht'
  rw [table, hreplaced]

section

variable {names : List String} {given stored : List (List Cell)}

/-- Insertion into named columns of a table, as far as its rows can be inserted. -/
theorem insert_eq (ht : s.table name = .ok t) (hcheck : t.checkInsert names given = .ok ()) :
    s.insert name (some names) given none =
      match Table.insertAll names given t s.lastId with
      | (.error e, lastId) => (.error e, { s with lastId := lastId })
      | (.ok (t', added), lastId) =>
        (.ok ⟨[], added.length⟩, { s.replace t' with lastId := lastId }) := by
  rcases hall : Table.insertAll names given t s.lastId with ⟨e | ⟨t', added⟩, lastId⟩
  · simp [insert, ht, hcheck, hall, bind, Except.bind, Table.returned]
  · simp [insert, ht, hcheck, hall, bind, Except.bind, Table.returned]

/-- Behind a successful insertion the rows of the table are those that it had and the new ones. -/
theorem insert_eq_ok (ht : s.table name = .ok t) (hcheck : t.checkInsert names given = .ok ())
    (hstores : List.Forall₂ (Table.Stores t.columns names) given stored) (hplain : t.Plain)
    (hcounted : Table.Counted t.rows) {effect : Effect} {s' : Store}
    (h : s.insert name (some names) given none = (.ok effect, s')) :
    ∃ added, s'.table name = .ok { t with rows := t.rows ++ added } ∧
      added.map Row.cells = stored := by
  rw [insert_eq ht hcheck] at h
  rcases hall : Table.insertAll names given t s.lastId with ⟨e | ⟨t', added⟩, lastId⟩
  · rw [hall] at h
    cases h
  · rw [hall] at h
    cases h
    obtain ⟨rfl, hadded⟩ := Table.insertAll_eq_ok hstores rfl hplain hcounted hall
    exact ⟨added, table_replace ht rfl, hadded⟩

/-- Rows that a plain table stores are inserted, if there are ids for them. -/
theorem exists_insert_eq_ok (ht : s.table name = .ok t)
    (hcheck : t.checkInsert names given = .ok ())
    (hstores : List.Forall₂ (Table.Stores t.columns names) given stored) (hplain : t.Plain)
    (hcounted : Table.Counted t.rows)
    (hfits : t.rows.length + stored.length ≤ IntKind.i64.maxNat) :
    ∃ effect s', s.insert name (some names) given none = (.ok effect, s') := by
  obtain ⟨t', added, lastId, hall⟩ :=
    Table.exists_insertAll_eq_ok hstores rfl hplain hcounted hfits s.lastId
  rw [insert_eq ht hcheck, hall]
  exact ⟨_, _, rfl⟩

end

/-! ### Texts of one statement -/

/-- One statement runs by itself. -/
theorem runAll_singleton {tokens : List Token} {statement : Statement}
    (h : Grammar.statement tokens = some statement) (s : Store) :
    runAll [tokens] s = s.run statement := by
  rw [runAll, h]
  dsimp only
  rcases s.run statement with ⟨e | ⟨rows, changes⟩, s'⟩
  · rfl
  · simp [runAll, Effect.append]

end Store

end SqlBinding.Sqlite
