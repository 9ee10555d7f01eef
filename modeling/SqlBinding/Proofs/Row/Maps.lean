import SqlBinding.Proofs.Column.Families
import SqlBinding.Proofs.NameMap
import SqlBinding.Proofs.Row.Width

/-!
# Rows bound to maps

A map takes a row exactly if it has a value for every column and each value is taken by the family
of its column. Every value is brought into the form of its family and put under the name of its
column, one after the other; of several columns of a name the last one stays. Where a value is not
taken, the first such column is named.
-/

set_option autoImplicit false

namespace SqlBinding

/-- What a map knows of a column. -/
structure MapColumn where
  family : TypeFamily
  nullable : Option Bool

/-- What a map knows of the column with an index: what the driver tells of it, if it tells of as
many columns as there are. -/
def mapColumn (columns : List String) (types : List ColumnType) (i : Nat) : MapColumn :=
  match if types.length = columns.length then types[i]? else none with
  | some t => ⟨t.family, t.nullable⟩
  | none => ⟨.raw, none⟩

variable {columns : List String} {types : List ColumnType} {values : List ColumnValue}

/-- A column is of a family if the driver declares it so and tells of as many columns as there are.
-/
theorem mapColumn_family_iff {family : TypeFamily} (hfamily : family ≠ .raw) (i : Nat) :
    (mapColumn columns types i).family = family ↔ types.length = columns.length ∧
      ∃ t, types[i]? = some t ∧ family.Declares t.databaseType.toList := by
  unfold mapColumn
  by_cases htold : types.length = columns.length
  · rw [if_pos htold]
    cases types[i]? with
    | none => simp [htold, hfamily.symm]
    | some t => simp [htold, ColumnType.family, TypeFamily.ofDatabaseType_eq_iff hfamily]
  · simp [htold, hfamily.symm]

namespace RowPlan

/-! ### Reading the values of a row -/

/-- Reads a value by what is known of its column, for the name of the column. -/
def readCell : String × ColumnType × ColumnValue → Except Error (String × ColumnValue)
  | (name, t, v) =>
    match t.family.read v t.nullable with
    | .ok w => .ok (name, w)
    | .error cause => .error (.scan name cause)

/-- A value is read for the name of its column, as its family says. -/
theorem readCell_eq_ok_iff {name : String} {t : ColumnType} {v : ColumnValue}
    {entry : String × ColumnValue} :
    readCell (name, t, v) = .ok entry ↔
      entry.1 = name ∧ t.family.read v t.nullable = .ok entry.2 := by
  obtain ⟨key, w⟩ := entry
  rw [readCell]
  cases t.family.read v t.nullable <;> simp [eq_comm]

/-- A value that its family does not read is an error that names the column. -/
theorem readCell_eq_error_iff {name : String} {t : ColumnType} {v : ColumnValue} {e : Error} :
    readCell (name, t, v) = .error e ↔
      ∃ cause, t.family.read v t.nullable = .error cause ∧ e = .scan name cause := by
  rw [readCell]
  cases t.family.read v t.nullable <;> simp [eq_comm]

/-- The values are read one by one, and then put in one by one. -/
theorem readValues_eq (plan : RowPlan) {front names : List String}
    {cells : List (ColumnType × ColumnValue)} (hcolumns : plan.columns = front ++ names)
    (hlength : names.length = cells.length) (row : NameMap ColumnValue) :
    plan.readValues front.length row cells =
      ((names.zip cells).mapM readCell).map row.insertAll := by
  induction cells generalizing front names row with
  | nil => simp [readValues, pure, Except.pure, Except.map, NameMap.insertAll]
  | cons cell rest ih =>
    obtain ⟨t, v⟩ := cell
    cases names with
    | nil => cases hlength
    | cons name names =>
      have hname : plan.columns[front.length]? = some name := by simp [hcolumns]
      have hrest : plan.columns = (front ++ [name]) ++ names := by simp [hcolumns]
      have hnext := ih hrest (Nat.succ.inj hlength)
      rw [List.length_append, List.length_singleton] at hnext
      rw [readValues, List.zip_cons_cons, List.mapM_cons, readCell]
      cases t.family.read v t.nullable with
      | error cause => simp [scanError, hname, bind, Except.bind, Except.map]
      | ok w =>
        simp only [hname, Option.getD_some, hnext]
        cases (names.zip rest).mapM readCell with
        | error e => rfl
        | ok entries => rfl

/-- The plan of a map has the type of every column that is told, and an empty one otherwise. -/
theorem exists_forMap_eq (columns : List String) (types : List ColumnType) :
    ∃ known, forMap columns types = ⟨columns, .typed known⟩ ∧ known.length = columns.length ∧
      ∀ (i : Nat) (t : ColumnType), known[i]? = some t →
        (mapColumn columns types i).family = t.family ∧
        (mapColumn columns types i).nullable = t.nullable := by
  unfold forMap mapColumn
  by_cases htold : types.length = columns.length
  · refine ⟨types, by rw [if_pos htold], htold, fun i t ht => ?_⟩
    simp only [htold, if_true, ht, and_self]
  · refine ⟨_, by rw [if_neg htold], List.length_map _, fun i t ht => ?_⟩
    rw [List.getElem?_map, Option.map_eq_some_iff] at ht
    obtain ⟨name, -, rfl⟩ := ht
    have hraw : TypeFamily.ofDatabaseType "" = .raw := by decide
    simp only [htold, if_false, ColumnType.family, hraw, and_self]

/-- A row of the right width is read cell by cell, each with the name of its column and by what is
known of it. -/
theorem exists_cells (types : List ColumnType) (hwidth : values.length = columns.length) :
    ∃ cells : List (String × ColumnType × ColumnValue),
      (forMap columns types).bindMap values =
        (cells.mapM readCell).map NameMap.empty.insertAll ∧
      cells.map Prod.fst = columns ∧
      ∀ i < columns.length, ∃ name t v, cells[i]? = some (name, t, v) ∧
        columns[i]? = some name ∧ values[i]? = some v ∧
        (mapColumn columns types i).family = t.family ∧
        (mapColumn columns types i).nullable = t.nullable := by
  obtain ⟨known, hplan, hknown, hcolumn⟩ := exists_forMap_eq columns types
  have hlength : columns.length = (known.zip values).length := by simp [hknown, hwidth]
  refine ⟨columns.zip (known.zip values), ?_, List.map_fst_zip hlength.le, fun i hi => ?_⟩
  · rw [hplan]
    simp only [bindMap, checkWidth, hwidth, if_true]
    exact readValues_eq ⟨columns, .typed known⟩ (List.nil_append columns).symm hlength .empty
  · have hname : columns[i]? = some columns[i] := List.getElem?_eq_getElem hi
    have ht : known[i]? = some known[i] := List.getElem?_eq_getElem (hknown ▸ hi)
    have hv : values[i]? = some values[i] := List.getElem?_eq_getElem (hwidth ▸ hi)
    exact ⟨_, _, _, List.getElem?_zip_eq_some.2 ⟨hname, List.getElem?_zip_eq_some.2 ⟨ht, hv⟩⟩,
      hname, hv, hcolumn i _ ht⟩

/-- What is put into a bound map: an entry for every column in order, with what is read there. -/
theorem exists_entries_of_bindMap {row : NameMap ColumnValue}
    (h : (forMap columns types).bindMap values = .ok row) :
    values.length = columns.length ∧ ∃ entries : List (String × ColumnValue),
      row = NameMap.empty.insertAll entries ∧ entries.map Prod.fst = columns ∧
      ∀ i < columns.length, ∃ name v w, columns[i]? = some name ∧ values[i]? = some v ∧
        entries[i]? = some (name, w) ∧
        (mapColumn columns types i).family.read v (mapColumn columns types i).nullable =
          .ok w := by
  have hwidth : values.length = columns.length := by
    by_contra hwidth
    rw [bindMap_of_ne types hwidth] at h
    cases h
  obtain ⟨cells, hbind, hnames, hcells⟩ := exists_cells types hwidth
  rw [hbind, Outcome.map_eq_ok_iff] at h
  obtain ⟨entries, hentries, rfl⟩ := h
  refine ⟨hwidth, entries, rfl, ?_, fun i hi => ?_⟩
  · have hread := (Outcome.mapM_eq_ok_iff.1 hentries).imp fun _ _ h => (readCell_eq_ok_iff.1 h).1
    rw [← hnames, eq_comm, ← List.forall₂_eq_eq_eq, List.forall₂_map_left_iff,
      List.forall₂_map_right_iff]
    exact hread.imp fun _ _ h => h.symm
  · obtain ⟨name, t, v, hcell, hname, hv, hfamily, hnullable⟩ := hcells i hi
    obtain ⟨⟨key, w⟩, hentry, hread⟩ := Outcome.exists_getElem?_of_mapM hentries hcell
    obtain ⟨rfl, hw⟩ := readCell_eq_ok_iff.1 hread
    rw [hfamily, hnullable]
    exact ⟨key, v, w, hname, hv, hentry, hw⟩

/-- A row of the right width is refused for the first value that cannot be read. -/
theorem exists_unread_of_bindMap (hwidth : values.length = columns.length) {e : Error}
    (h : (forMap columns types).bindMap values = .error e) :
    ∃ i name v cause, columns[i]? = some name ∧ values[i]? = some v ∧
      (mapColumn columns types i).family.read v (mapColumn columns types i).nullable =
        .error cause ∧
      e = .scan name cause ∧
      ∀ j < i, ∀ u, values[j]? = some u →
        (mapColumn columns types j).family.Takes (mapColumn columns types j).nullable u := by
  obtain ⟨cells, hbind, hnames, hcells⟩ := exists_cells types hwidth
  rw [hbind, Outcome.map_eq_error_iff, Outcome.mapM_eq_error_iff] at h
  obtain ⟨front, cell, back, rfl, hfront, hfailed⟩ := h
  have hfrontLength : front.length < columns.length := by
    rw [← hnames]
    simp
  obtain ⟨name, t, v, hcell, hname, hv, hfamily, hnullable⟩ := hcells front.length hfrontLength
  obtain rfl : cell = (name, t, v) := by simpa using hcell
  obtain ⟨cause, hcause, rfl⟩ := readCell_eq_error_iff.1 hfailed
  refine ⟨front.length, name, v, cause, hname, hv, by rw [hfamily, hnullable, hcause], rfl, ?_⟩
  -- An earlier cell belongs to those that were read.
  intro j hj u hu
  obtain ⟨name, t, u', hcell, -, hu', hfamily, hnullable⟩ := hcells j (hj.trans hfrontLength)
  obtain rfl : u = u' := Option.some.inj (hu.symm.trans hu')
  rw [List.getElem?_append_left hj] at hcell
  obtain ⟨entry, hentry⟩ := hfront _ (List.mem_of_getElem? hcell)
  obtain ⟨-, hw⟩ := readCell_eq_ok_iff.1 hentry
  rw [hfamily, hnullable]
  exact TypeFamily.exists_read_eq_ok_iff.1 ⟨entry.2, hw⟩

/-- A row is bound exactly if it has a value for every column and all of them are taken. -/
theorem exists_bindMap_eq_ok_iff :
    (∃ row, (forMap columns types).bindMap values = .ok row) ↔ values.length = columns.length ∧
      ∀ (i : Nat) (v : ColumnValue), values[i]? = some v →
        (mapColumn columns types i).family.Takes (mapColumn columns types i).nullable v := by
  constructor
  · rintro ⟨row, hrow⟩
    obtain ⟨hwidth, entries, -, -, hread⟩ := exists_entries_of_bindMap hrow
    refine ⟨hwidth, fun i v hv => ?_⟩
    obtain ⟨hi, -⟩ := List.getElem?_eq_some_iff.1 hv
    obtain ⟨name, v', w, -, hv', -, hw⟩ := hread i (hwidth ▸ hi)
    obtain rfl : v = v' := Option.some.inj (hv.symm.trans hv')
    exact TypeFamily.exists_read_eq_ok_iff.1 ⟨w, hw⟩
  · rintro ⟨hwidth, htaken⟩
    cases hbind : (forMap columns types).bindMap values with
    | ok row => exact ⟨row, rfl⟩
    | error e =>
      obtain ⟨i, name, v, cause, -, hv, hcause, -⟩ := exists_unread_of_bindMap hwidth hbind
      obtain ⟨w, hw⟩ := TypeFamily.exists_read_eq_ok_iff.2 (htaken i v hv)
      cases hcause.symm.trans hw

/-- The names of a bound map are those of the columns. -/
theorem names_of_bindMap {row : NameMap ColumnValue}
    (h : (forMap columns types).bindMap values = .ok row) :
    row.names.Nodup ∧ ∀ name, name ∈ row.names ↔ name ∈ columns := by
  obtain ⟨-, entries, rfl, hnames, -⟩ := exists_entries_of_bindMap h
  refine ⟨NameMap.nodup_names_insertAll (m := .empty) List.nodup_nil entries, fun name => ?_⟩
  rw [NameMap.mem_names_insertAll, hnames]
  exact or_iff_right List.not_mem_nil

/-- Under a name stands what was read in the last column of that name. -/
theorem get?_of_bindMap {row : NameMap ColumnValue}
    (h : (forMap columns types).bindMap values = .ok row) {i : Nat} {name : String}
    (hname : columns[i]? = some name) (hlast : ∀ j, i < j → columns[j]? ≠ some name) :
    ∃ v w, values[i]? = some v ∧ row.get? name = some w ∧
      (mapColumn columns types i).family.read v (mapColumn columns types i).nullable = .ok w := by
  obtain ⟨-, entries, rfl, hnames, hread⟩ := exists_entries_of_bindMap h
  obtain ⟨hi, -⟩ := List.getElem?_eq_some_iff.1 hname
  obtain ⟨name', v, w, hname', hv, hentry, hw⟩ := hread i hi
  obtain rfl : name = name' := Option.some.inj (hname.symm.trans hname')
  rw [← hnames] at hlast
  exact ⟨v, w, hv, NameMap.get?_insertAll_of_last .empty hentry hlast, hw⟩

end RowPlan

namespace Destination

/-- A row is bound to a map exactly if it has a value for every column, and each is taken by what is
known of its column. The map has the names of the columns, each once, and under a name it has the
form of the value of the last column of that name, which is read again as it is. A row that is not
bound has the wrong width, or the first column whose value is not taken is named with the cause. -/
theorem map_binds_canonical (columns : List String) (types : List ColumnType)
    (values : List ColumnValue) :
    let column := mapColumn columns types
    ∃ plan, map.plan columns types = .ok plan ∧
      ((∃ row, map.bind plan values = .ok row) ↔ values.length = columns.length ∧
        ∀ (i : Nat) (v : ColumnValue), values[i]? = some v →
          (column i).family.Takes (column i).nullable v) ∧
      (∀ row : NameMap ColumnValue, map.bind plan values = .ok row →
        row.names.Nodup ∧ (∀ name, name ∈ row.names ↔ name ∈ columns) ∧
        ∀ (i : Nat) (name : String), columns[i]? = some name →
          (∀ j, i < j → columns[j]? ≠ some name) →
          ∃ v w, values[i]? = some v ∧ row.get? name = some w ∧
            (column i).family.Canonical v w ∧
            (column i).family.read w (column i).nullable = .ok w) ∧
      (∀ e, map.bind plan values = .error e →
        (values.length ≠ columns.length ∧
          e = .invalidContainer (.rowWidth values.length columns.length)) ∨
        (values.length = columns.length ∧ ∃ (i : Nat) (name : String) (v : ColumnValue)
          (cause : ScanError), columns[i]? = some name ∧ values[i]? = some v ∧
            (column i).family.read v (column i).nullable = .error cause ∧ e = .scan name cause ∧
            ∀ j < i, ∀ u, values[j]? = some u →
              (column j).family.Takes (column j).nullable u)) ∧
      ∀ (i : Nat) (family : TypeFamily), family ≠ .raw →
        ((column i).family = family ↔ types.length = columns.length ∧
          ∃ t, types[i]? = some t ∧ family.Declares t.databaseType.toList) := by
  intro column
  refine ⟨.forMap columns types, rfl, RowPlan.exists_bindMap_eq_ok_iff, fun row hrow => ?_,
    fun e he => ?_, fun i family hfamily => mapColumn_family_iff hfamily i⟩
  · obtain ⟨hnodup, hnames⟩ := RowPlan.names_of_bindMap hrow
    refine ⟨hnodup, hnames, fun i name hname hlast => ?_⟩
    obtain ⟨v, w, hv, hget, hw⟩ := RowPlan.get?_of_bindMap hrow hname hlast
    exact ⟨v, w, hv, hget, (TypeFamily.read_eq_ok_iff.1 hw).2, TypeFamily.read_again hw⟩
  · by_cases hwidth : values.length = columns.length
    · obtain ⟨i, name, v, cause, hread⟩ := RowPlan.exists_unread_of_bindMap hwidth he
      exact .inr ⟨hwidth, i, name, v, cause, hread⟩
    · cases he.symm.trans (RowPlan.bindMap_of_ne types hwidth)
      exact .inl ⟨hwidth, rfl⟩

/-- Of two columns of a name the second one stays, and NULL in the first one is refused. -/
theorem map_binds_canonical_same_name :
    let columns := ["n", "n"]
    let types : List ColumnType :=
      [⟨"n", " int(10)  ", some false⟩, ⟨"n", "Character Varying", none⟩]
    let column := mapColumn columns types
    let seven := ColumnValue.text "\u20037 "
    columns[1]? = some "n" ∧ (∀ j, 1 < j → columns[j]? ≠ some "n") ∧
      ∃ plan, map.plan columns types = .ok plan ∧
        (∃ row, map.bind plan [seven, .bool true] = .ok row ∧ row.get? "n" = some (.text "true") ∧
          (column 1).family.Canonical (.bool true) (.text "true")) ∧
        map.bind plan [.null, .bool true] = .error (.scan "n" (.unexpectedNull "integer")) ∧
        ¬ ∀ (i : Nat) (v : ColumnValue), [.null, .bool true][i]? = some v →
          (column i).family.Takes (column i).nullable v := by
  intro columns types column seven
  have hrow : map.bind (.forMap columns types) [seven, .bool true] =
      .ok ⟨[("n", .text "true")]⟩ := by rfl
  have hnull : map.bind (.forMap columns types) [.null, .bool true] =
      .error (.scan "n" (.unexpectedNull "integer")) := by rfl
  have hlast : ∀ j, 1 < j → columns[j]? ≠ some "n" := by
    intro j hj h
    obtain ⟨hlt, -⟩ := List.getElem?_eq_some_iff.1 h
    have hlength : columns.length = 2 := rfl
    omega
  obtain ⟨_, hplan, -, hheld, -⟩ := map_binds_canonical columns types [seven, .bool true]
  cases hplan
  obtain ⟨v, w, hv, hw, hform, -⟩ := (hheld _ hrow).2.2 1 "n" rfl hlast
  cases hv
  cases hw
  obtain ⟨_, hplan, htaken, -⟩ := map_binds_canonical columns types [.null, .bool true]
  cases hplan
  refine ⟨rfl, hlast, _, rfl, ⟨_, hrow, rfl, hform⟩, hnull, fun htakes => ?_⟩
  obtain ⟨row, hbound⟩ := htaken.2 ⟨rfl, htakes⟩
  cases hnull.symm.trans hbound

end Destination

end SqlBinding
