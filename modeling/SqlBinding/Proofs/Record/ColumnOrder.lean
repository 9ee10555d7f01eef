import Mathlib.Data.List.Nodup
import Mathlib.Data.List.Perm.Basic
import SqlBinding.Proofs.Outcome
import SqlBinding.Proofs.Record.Writes
import SqlBinding.Record.Samples
import SqlBinding.Row.Destination

/-!
# Binding a row in any order of its columns

Binding a row to a record depends on the order of the columns where a NULL may be dropped by a
missing record or reach a field of it. `Exposed` says that a NULL is in that position: the last
optional record above it that is missing by default is filled in by another value of the row.
Everything else commutes, so a row is bound alike in all orders exactly if some value of it is
refused in all of them, or every exposed NULL leaves its field with the default.
-/

set_option autoImplicit false

namespace SqlBinding.Record

open Numeric

/-- Values and the paths that they are written at. -/
abbrev Writes := List (Path × ColumnValue)

namespace FieldType

/-- A field after writes one after the other, unless one of them fails. -/
def puts (t : FieldType) : t.Val → Writes → Option t.Val
  | val, [] => some val
  | val, (path, v) :: rest => (t.put val path v).bind (t.puts · rest)

variable {t : FieldType} {val val' : t.Val} {path : Path} {ws ws' : Writes}

/-- Whether the writes are at different paths, all of which lead to fields that receive a column. -/
structure Apart (t : FieldType) (ws : Writes) : Prop where
  nodup : (ws.map Prod.fst).Nodup
  field : ∀ w ∈ ws, (t.field? w.1).isSome

/-- Writes are made by making the first of them and then the rest. -/
theorem puts_append (val : t.Val) (ws ws' : Writes) :
    t.puts val (ws ++ ws') = (t.puts val ws).bind (t.puts · ws') := by
  induction ws generalizing val with
  | nil => rfl
  | cons w ws ih =>
    rw [List.cons_append, puts, puts, Option.bind_assoc]
    simp only [ih]

/-- Writes at different paths are so in any order. -/
theorem Apart.perm (h : t.Apart ws) (hperm : ws.Perm ws') : t.Apart ws' where
  nodup := (hperm.map Prod.fst).nodup_iff.1 h.nodup
  field w hw := h.field w (hperm.mem_iff.2 hw)

/-- Some of the writes at different paths are at different paths. -/
theorem Apart.sublist (h : t.Apart ws) (hsublist : ws'.Sublist ws) : t.Apart ws' where
  nodup := h.nodup.sublist (hsublist.map Prod.fst)
  field w hw := h.field w (hsublist.subset hw)

/-- The writes behind the first one are at different paths. -/
theorem Apart.tail {w : Path × ColumnValue} (h : t.Apart (w :: ws)) : t.Apart ws :=
  h.sublist (List.sublist_cons_self w ws)

/-- There is one write at a path. -/
theorem Apart.eq_of_path {w w' : Path × ColumnValue} (h : t.Apart ws) (hw : w ∈ ws) (hw' : w' ∈ ws)
    (heq : w.1 = w'.1) : w = w' :=
  List.inj_on_of_nodup_map h.nodup hw hw' heq

/-- The first of writes that are apart is at another path than the others. -/
theorem Apart.ne {w w' : Path × ColumnValue} (h : t.Apart (w :: ws)) (hw' : w' ∈ ws) :
    w'.1 ≠ w.1 := by
  intro heq
  exact (List.nodup_cons.1 h.nodup).1 (heq ▸ List.mem_map_of_mem hw')

/-- Writes at other paths leave a fresh field fresh, and open it exactly if one of them fills in
what must be. -/
theorem puts_other (h : t.Apart ws) (hfield : (t.field? path).isSome)
    (hne : ∀ w ∈ ws, path ≠ w.1) (hfresh : t.Fresh val path) (hputs : t.puts val ws = some val') :
    t.Fresh val' path ∧ (t.Open val' path ↔
      t.Open val path ∨ ∃ w ∈ ws, w.2 ≠ .null ∧ t.Wakes path w.1) := by
  induction ws generalizing val with
  | nil =>
    cases hputs
    exact ⟨hfresh, by simp⟩
  | cons w ws ih =>
    obtain ⟨next, hput, hputs⟩ := Option.bind_eq_some_iff.1 hputs
    obtain ⟨hfresh, hopen⟩ :=
      t.put_other hfield (h.field w (by simp)) (hne w (by simp)) hfresh hput
    obtain ⟨hfresh, hopen'⟩ :=
      ih h.tail (fun w' hw' => hne w' (by simp [hw'])) hfresh hputs
    refine ⟨hfresh, hopen'.trans ?_⟩
    rw [hopen, or_assoc]
    simp

/-- The other writes find their fields fresh after the first. -/
theorem Apart.fresh_of_put {w : Path × ColumnValue} (h : t.Apart (w :: ws))
    (hfresh : ∀ w' ∈ w :: ws, t.Fresh val w'.1) (hput : t.put val w.1 w.2 = some val') :
    ∀ w' ∈ ws, t.Fresh val' w'.1 := fun w' hw' =>
  (t.put_other (h.field w' (by simp [hw'])) (h.field w (by simp)) (h.ne hw')
    (hfresh w' (by simp [hw'])) hput).1

/-- Whether a write fails in every order: its value reaches the field whatever has been written
before, and the field does not take it. -/
def Refuses (t : FieldType) (w : Path × ColumnValue) : Prop :=
  (w.2 ≠ .null ∨ t.guard? w.1 = none) ∧ ¬ t.Takes w.1 w.2

/-- Whether a NULL may be dropped by a missing record or reach a field of it: another of the values
fills in the last of the records above it that are missing by default. -/
def Exposed (t : FieldType) (ws : Writes) (w : Path × ColumnValue) : Prop :=
  w.2 = .null ∧ ∃ w' ∈ ws, w'.2 ≠ .null ∧ t.Wakes w.1 w'.1

/-- Writes of which no exposed NULL changes its field are compatible with one another. -/
theorem compatible_of_exposed (h : ∀ w ∈ ws, t.Exposed ws w → t.Absorbs w.1)
    {w w' : Path × ColumnValue} (hw : w ∈ ws) (hw' : w' ∈ ws) :
    t.Compatible w.1 w.2 w'.1 w'.2 :=
  fun hnull hvalue hwakes => h w hw ⟨hnull, w', hw', hvalue, hwakes⟩

/-- Compatible writes to fresh fields may be done in any order. -/
theorem puts_perm (hperm : ws.Perm ws') (h : t.Apart ws) (hfresh : ∀ w ∈ ws, t.Fresh val w.1)
    (hcompatible : ∀ w ∈ ws, ∀ w' ∈ ws, t.Compatible w.1 w.2 w'.1 w'.2) :
    t.puts val ws = t.puts val ws' := by
  induction hperm generalizing val with
  | nil => rfl
  | cons w hperm ih =>
    rw [puts, puts]
    cases hput : t.put val w.1 w.2 with
    | none => rfl
    | some next =>
      rw [Option.bind_some, Option.bind_some]
      exact ih h.tail (h.fresh_of_put hfresh hput)
        fun a ha b hb => hcompatible a (by simp [ha]) b (by simp [hb])
  | swap w w' rest =>
    simp only [puts]
    rw [← Option.bind_assoc, ← Option.bind_assoc]
    rw [t.put_comm (h.field w' (by simp)) (h.field w (by simp)) (h.ne (by simp)).symm
      (hfresh w' (by simp)) (hfresh w (by simp)) (hcompatible w' (by simp) w (by simp))
      (hcompatible w (by simp) w' (by simp))]
  | trans hperm _ ih ih' =>
    rw [ih h hfresh hcompatible]
    refine ih' (h.perm hperm) (fun w hw => hfresh w (hperm.mem_iff.2 hw)) fun a ha b hb => ?_
    exact hcompatible a (hperm.mem_iff.2 ha) b (hperm.mem_iff.2 hb)

/-- Writes fail if one of them does in every order. -/
theorem puts_of_refuses (h : t.Apart ws) (hfresh : ∀ w ∈ ws, t.Fresh val w.1)
    {w : Path × ColumnValue} (hw : w ∈ ws) (hrefuses : t.Refuses w) : t.puts val ws = none := by
  induction ws generalizing val with
  | nil => cases hw
  | cons first ws ih =>
    rw [puts]
    rcases List.mem_cons.1 hw with rfl | hw
    · have hreached : w.2 ≠ .null ∨ t.Open val w.1 :=
        hrefuses.1.imp id fun h => t.open_of_fresh h (hfresh w (by simp))
      have hnone : t.put val w.1 w.2 = none := by
        rw [← Option.not_isSome_iff_eq_none,
          isSome_put_iff (h.field w (by simp)) (hfresh w (by simp)) hreached]
        exact hrefuses.2
      rw [hnone]
      rfl
    · cases hput : t.put val first.1 first.2 with
      | none => rfl
      | some next => exact ih h.tail (h.fresh_of_put hfresh hput) hw

/-- Values that are not NULL are written if their fields take them. -/
theorem isSome_puts_values (h : t.Apart ws) (hfresh : ∀ w ∈ ws, t.Fresh val w.1)
    (hvalues : ∀ w ∈ ws, w.2 ≠ .null) (htakes : ∀ w ∈ ws, ¬ t.Refuses w) :
    (t.puts val ws).isSome := by
  induction ws generalizing val with
  | nil => rfl
  | cons w ws ih =>
    have hput : (t.put val w.1 w.2).isSome := by
      rw [isSome_put_iff (h.field w (by simp)) (hfresh w (by simp)) (.inl (hvalues w (by simp)))]
      by_contra hrefused
      exact htakes w (by simp) ⟨.inl (hvalues w (by simp)), hrefused⟩
    obtain ⟨next, hput⟩ := Option.isSome_iff_exists.1 hput
    rw [puts, hput, Option.bind_some]
    exact ih h.tail (h.fresh_of_put hfresh hput) (fun w' hw' => hvalues w' (by simp [hw']))
      fun w' hw' => htakes w' (by simp [hw'])

/-- NULLs are written before anything else, being dropped where a record may be missing. -/
theorem isSome_puts_nulls (h : t.Apart ws) (hfresh : ∀ w ∈ ws, t.Fresh val w.1)
    (hnulls : ∀ w ∈ ws, w.2 = .null) (htakes : ∀ w ∈ ws, ¬ t.Refuses w)
    (hopen : ∀ w ∈ ws, t.Open val w.1 → t.guard? w.1 = none) : (t.puts val ws).isSome := by
  induction ws generalizing val with
  | nil => rfl
  | cons w ws ih =>
    have hfield := h.field w (by simp)
    have hput : (t.put val w.1 w.2).isSome := by
      by_cases hreached : t.Open val w.1
      · rw [isSome_put_iff hfield (hfresh w (by simp)) (.inr hreached)]
        by_contra hrefused
        exact htakes w (by simp) ⟨.inr (hopen w (by simp) hreached), hrefused⟩
      · rw [hnulls w (by simp), t.put_null_of_not_open hfield hreached]
        rfl
    obtain ⟨next, hput⟩ := Option.isSome_iff_exists.1 hput
    rw [puts, hput, Option.bind_some]
    refine ih h.tail (h.fresh_of_put hfresh hput) (fun w' hw' => hnulls w' (by simp [hw']))
      (fun w' hw' => htakes w' (by simp [hw'])) fun w' hw' hopen' => ?_
    -- The NULL has filled in nothing, so what is open now was open before.
    have hsame := (t.put_other (h.field w' (by simp [hw'])) hfield (h.ne hw')
      (hfresh w' (by simp [hw'])) hput).2
    rcases hsame.1 hopen' with hbefore | ⟨hvalue, -⟩
    · exact hopen w' (by simp [hw']) hbefore
    · exact absurd (hnulls w (by simp)) hvalue

/-- The writes of NULL, and those of other values behind them. -/
def nullsFirst (ws : Writes) : Writes :=
  ws.filter (fun w : Path × ColumnValue => decide (w.2 = .null)) ++
    ws.filter fun w : Path × ColumnValue => !decide (w.2 = .null)

/-- Putting the writes of NULL first only changes the order. -/
theorem nullsFirst_perm (ws : Writes) : (nullsFirst ws).Perm ws :=
  List.filter_append_perm (fun w : Path × ColumnValue => decide (w.2 = .null)) ws

/-- From the default, writes with the NULLs in front succeed unless one fails in every order. -/
theorem isSome_puts_nullsFirst (h : t.Apart ws) (htakes : ∀ w ∈ ws, ¬ t.Refuses w) :
    (t.puts t.default (nullsFirst ws)).isSome := by
  have hfresh : ∀ w : Path × ColumnValue, t.Fresh t.default w.1 := fun w => t.fresh_default w.1
  have hnulls : t.Apart (ws.filter fun w : Path × ColumnValue => decide (w.2 = .null)) :=
    h.sublist List.filter_sublist
  have hvalues : t.Apart (ws.filter fun w : Path × ColumnValue => !decide (w.2 = .null)) :=
    h.sublist List.filter_sublist
  have hdefault := isSome_puts_nulls hnulls (fun w _ => hfresh w)
    (fun w hw => by simpa using (List.mem_filter.1 hw).2)
    (fun w hw => htakes w (List.mem_filter.1 hw).1) fun w _ => t.guard?_of_open_default
  obtain ⟨next, hnext⟩ := Option.isSome_iff_exists.1 hdefault
  rw [nullsFirst, puts_append, hnext, Option.bind_some]
  refine isSome_puts_values hvalues (fun w hw => ?_)
    (fun w hw => by simpa using (List.mem_filter.1 hw).2)
    fun w hw => htakes w (List.mem_filter.1 hw).1
  refine (puts_other hnulls (hvalues.field w hw) (fun w' hw' heq => ?_) (hfresh w) hnext).1
  -- A value and a NULL at one path would be one write.
  have hvalue : w.2 ≠ .null := by simpa using (List.mem_filter.1 hw).2
  have hnull : w'.2 = .null := by simpa using (List.mem_filter.1 hw').2
  rw [h.eq_of_path (List.mem_filter.1 hw).1 (List.mem_filter.1 hw').1 heq] at hvalue
  exact hvalue hnull

/-- If writes may be done in any order and none of them always fails, an exposed NULL leaves its
field with the default: written last it does what it does when it is dropped in front. -/
theorem absorbs_of_any_order (h : t.Apart ws) (htakes : ∀ w ∈ ws, ¬ t.Refuses w)
    (hany : ∀ ws', ws'.Perm ws → t.puts t.default ws' = t.puts t.default ws)
    {w : Path × ColumnValue} (hw : w ∈ ws) (hexposed : t.Exposed ws w) : t.Absorbs w.1 := by
  obtain ⟨path, v⟩ := w
  obtain ⟨hnull, w', hw', hvalue, hwakes⟩ := hexposed
  obtain rfl : v = .null := hnull
  have hfield := h.field _ hw
  have hfresh := t.fresh_default path
  have hguard : ¬ t.Open t.default path := by
    intro hopen
    obtain ⟨guard, hguard, -⟩ := hwakes
    rw [t.guard?_of_open_default hopen] at hguard
    cases hguard
  -- The other writes succeed with their NULLs in front; this one goes before or behind all of them.
  obtain ⟨before, after, rfl⟩ := List.append_of_mem hw
  have hothers := nullsFirst_perm (before ++ after)
  have hfront : ((path, ColumnValue.null) :: nullsFirst (before ++ after)).Perm
      (before ++ (path, .null) :: after) := (hothers.cons _).trans List.perm_middle.symm
  have hback := List.perm_append_singleton (path, ColumnValue.null) (nullsFirst (before ++ after))
  have happart := h.perm hfront.symm
  have hsome := isSome_puts_nullsFirst (h.perm List.perm_middle).tail fun w hw =>
    htakes w (List.perm_middle.mem_iff.2 (List.mem_cons_of_mem _ hw))
  obtain ⟨s, hs⟩ := Option.isSome_iff_exists.1 hsome
  have hsame : t.put s path .null = some s := by
    have heq := (hany _ hfront).trans (hany _ (hback.trans hfront)).symm
    rw [puts, t.put_null_of_not_open hfield hguard, Option.bind_some, puts_append, hs,
      Option.bind_some, puts] at heq
    simpa [puts] using heq.symm
  obtain ⟨hfresh', hopen⟩ :=
    puts_other happart.tail hfield (fun w hw => (happart.ne hw).symm) hfresh hs
  refine (put_null_eq_iff hfield hfresh' (hopen.2 (.inr ⟨w', ?_, hvalue, hwakes⟩))).1 hsame
  rcases List.mem_cons.1 (List.perm_middle.mem_iff.1 hw') with rfl | hw'
  · exact absurd rfl hvalue
  · exact hothers.mem_iff.2 hw'

/-- Writes from the default may be done in any order exactly if one of them fails in every order or
no exposed NULL changes its field. -/
theorem puts_any_order_iff (h : t.Apart ws) :
    (∀ ws', ws'.Perm ws → t.puts t.default ws' = t.puts t.default ws) ↔
      (∃ w ∈ ws, t.Refuses w) ∨ ∀ w ∈ ws, t.Exposed ws w → t.Absorbs w.1 := by
  constructor
  · intro hany
    by_cases hrefuses : ∃ w ∈ ws, t.Refuses w
    · exact .inl hrefuses
    · refine .inr fun w hw hexposed => absorbs_of_any_order h (fun w hw hw' => ?_) hany hw hexposed
      exact hrefuses ⟨w, hw, hw'⟩
  · rintro (⟨w, hw, hrefuses⟩ | habsorbs) ws' hperm
    · rw [puts_of_refuses h (fun w _ => t.fresh_default w.1) hw hrefuses,
        puts_of_refuses (h.perm hperm.symm) (fun w _ => t.fresh_default w.1)
          (hperm.mem_iff.2 hw) hrefuses]
    · exact (puts_perm hperm.symm h (fun w _ => t.fresh_default w.1)
        fun w hw w' hw' => compatible_of_exposed habsorbs hw hw').symm

end FieldType

/-- What the entries of a list are mapped to, in another order, are the entries in another order
mapped. -/
theorem exists_perm_of_perm_map {α β : Type} {f : α → β} {l : List α} {l' : List β}
    (h : l'.Perm (l.map f)) : ∃ k : List α, k.Perm l ∧ l' = k.map f := by
  have hcomp : Relation.Comp (· = List.map f ·) List.Perm l' l := by
    rw [List.eq_map_comp_perm]
    exact h
  obtain ⟨k, hk, hperm⟩ := hcomp
  exact ⟨k, hperm, hk⟩

namespace Fields

variable {fs : Fields} {cells : List (String × ColumnValue)}

/-- Plans a record for the columns of a row and binds the values of the row. -/
def bindRow (fs : Fields) (cells : List (String × ColumnValue)) : Except Error fs.Val :=
  match RowPlan.forRecord fs (cells.map Prod.fst) with
  | .error e => .error e
  | .ok plan => plan.bindRecord fs (cells.map Prod.snd)

/-- The path that a column has in the field table of the record. -/
def pathOf (fs : Fields) (column : String) : Path := (fs.table.get? column).getD []

/-- The writes of a row whose columns are known. -/
def writes (fs : Fields) (cells : List (String × ColumnValue)) : Writes :=
  cells.map fun cell => (fs.pathOf cell.1, cell.2)

/-- Known columns are mapped to their paths. -/
theorem mapColumns_eq {columns : List String}
    (hknown : ∀ column ∈ columns, (fs.table.get? column).isSome) :
    mapColumns fs.table columns = .ok (columns.map fs.pathOf) := by
  induction columns with
  | nil => rfl
  | cons column columns ih =>
    obtain ⟨path, hpath⟩ := Option.isSome_iff_exists.1 (hknown column (by simp))
    rw [mapColumns, hpath, ih fun c hc => hknown c (by simp [hc])]
    simp [Except.map, pathOf, hpath]

/-- Its errors apart, a row is written field by field. -/
theorem toOption_writeFields (plan : RowPlan) (ws : Writes) (index : Nat) (r : fs.Val) :
    (plan.writeFields fs index r ws).toOption = (FieldType.record fs).puts r ws := by
  induction ws generalizing index r with
  | nil => rfl
  | cons w ws ih =>
    obtain ⟨path, v⟩ := w
    rw [RowPlan.writeFields, FieldType.puts, FieldType.put, scanField]
    rcases (FieldType.record fs).write r path v with ⟨next, outcome⟩
    cases outcome with
    | ok u => exact ih (index + 1) next
    | error e => rfl

/-- A row with known columns is bound by its writes to the default record, whose errors name the
columns. -/
theorem bindRow_eq (hknown : ∀ cell ∈ cells, (fs.table.get? cell.1).isSome) :
    fs.bindRow cells =
      RowPlan.writeFields ⟨cells.map Prod.fst, .fields ((cells.map Prod.fst).map fs.pathOf)⟩ fs 0
        fs.default (fs.writes cells) := by
  have hcolumns : ∀ column ∈ cells.map Prod.fst, (fs.table.get? column).isSome := by
    intro column hcolumn
    obtain ⟨cell, hcell, rfl⟩ := List.mem_map.1 hcolumn
    exact hknown cell hcell
  have hwrites :
      ((cells.map Prod.fst).map fs.pathOf).zip (cells.map Prod.snd) = fs.writes cells := by
    rw [writes, List.map_map, List.zip_map']
    rfl
  rw [bindRow, RowPlan.forRecord, mapColumns_eq hcolumns]
  simp only [Except.map, RowPlan.bindRecord, RowPlan.checkWidth, List.length_map, if_true, hwrites]

/-- A row of known columns is bound by writing its values into the default record. -/
theorem toOption_bindRow (hknown : ∀ cell ∈ cells, (fs.table.get? cell.1).isSome) :
    (fs.bindRow cells).toOption = (FieldType.record fs).puts fs.default (fs.writes cells) := by
  rw [bindRow_eq hknown]
  exact toOption_writeFields _ _ _ _

/-- The writes of a row with different known columns are at different paths of the record. -/
theorem apart_writes (hdistinct : (cells.map Prod.fst).Nodup)
    (hknown : ∀ cell ∈ cells, (fs.table.get? cell.1).isSome) :
    (FieldType.record fs).Apart (fs.writes cells) := by
  have hpath : ∀ cell ∈ cells, fs.table.get? cell.1 = some (fs.pathOf cell.1) := by
    intro cell hcell
    obtain ⟨path, h⟩ := Option.isSome_iff_exists.1 (hknown cell hcell)
    rw [pathOf, h, Option.getD_some]
  constructor
  · rw [writes, List.map_map]
    refine List.Nodup.map_on ?_ hdistinct.of_map
    intro cell hcell cell' hcell' heq
    refine List.inj_on_of_nodup_map hdistinct hcell hcell' ?_
    have heq : fs.pathOf cell.1 = fs.pathOf cell'.1 := heq
    refine fs.unambiguous_table _ _ _ (hpath cell hcell) ?_
    rw [heq]
    exact hpath cell' hcell'
  · intro w hw
    obtain ⟨cell, hcell, rfl⟩ := List.mem_map.1 hw
    exact isSome_field?_of_get? (hpath cell hcell)

/-- A row with different known columns is bound alike in all orders of its columns exactly if a
value of it is refused in every order, or every NULL that may be dropped or reach its field leaves
the field with its default. -/
theorem bindRow_any_order_iff (hdistinct : (cells.map Prod.fst).Nodup)
    (hknown : ∀ cell ∈ cells, (fs.table.get? cell.1).isSome) :
    (∀ cells', cells'.Perm cells → ∀ r, fs.bindRow cells' = .ok r ↔ fs.bindRow cells = .ok r) ↔
      (∃ w ∈ fs.writes cells, (FieldType.record fs).Refuses w) ∨
        ∀ w ∈ fs.writes cells, (FieldType.record fs).Exposed (fs.writes cells) w →
          (FieldType.record fs).Absorbs w.1 := by
  rw [← FieldType.puts_any_order_iff (apart_writes hdistinct hknown)]
  have hbind : ∀ cells' : List (String × ColumnValue), cells'.Perm cells →
      ((∀ r, fs.bindRow cells' = .ok r ↔ fs.bindRow cells = .ok r) ↔
        (FieldType.record fs).puts fs.default (fs.writes cells') =
          (FieldType.record fs).puts fs.default (fs.writes cells)) := by
    intro cells' hperm
    rw [← Outcome.toOption_eq_iff, toOption_bindRow hknown,
      toOption_bindRow fun cell hcell => hknown cell (hperm.mem_iff.1 hcell)]
  constructor
  · intro h ws' hperm
    obtain ⟨cells', hcells, rfl⟩ := exists_perm_of_perm_map hperm
    exact (hbind cells' hcells).1 (h cells' hcells)
  · intro h cells' hperm
    exact (hbind cells' hperm).2 (h _ (hperm.map _))

/-- A person of whose home the city is NULL and the zip code is 5: the row is bound if the city
comes first, and its NULL is dropped; it is refused if the zip code does, which fills in the
home. -/
theorem bindRow_depends_on_order :
    let five : I64 := ⟨5, by decide, by decide⟩
    let cells := [("zip", ColumnValue.int five), ("city", .null)]
    let cells' := [("city", ColumnValue.null), ("zip", .int five)]
    (cells.map Prod.fst).Nodup ∧ (∀ cell ∈ cells, (Samples.person.table.get? cell.1).isSome) ∧
      cells'.Perm cells ∧
      Samples.person.bindRow cells = .error (.scan "city" (.unexpectedNull "String")) ∧
      Samples.person.bindRow cells' = .ok (IntKind.i64.zero, some ("", some five, ()), ()) := by
  refine ⟨by decide, by decide, .swap _ _ _, ?_, ?_⟩
  · rfl
  · rfl

/-- A person whose zip code is NULL is bound alike in all orders of the columns: the NULL reaches
the home that the city fills in, and leaves the zip code missing. -/
theorem bindRow_any_order_person :
    let cells := [("city", ColumnValue.text "Ghent"), ("id", .bool true), ("zip", .null)]
    (cells.map Prod.fst).Nodup ∧ (∀ cell ∈ cells, (Samples.person.table.get? cell.1).isSome) ∧
      ∀ cells', cells'.Perm cells → ∀ r,
        Samples.person.bindRow cells' = .ok r ↔ Samples.person.bindRow cells = .ok r := by
  intro cells
  have hdistinct : (cells.map Prod.fst).Nodup := by decide
  have hknown : ∀ cell ∈ cells, (Samples.person.table.get? cell.1).isSome := by decide
  refine ⟨hdistinct, hknown, (bindRow_any_order_iff hdistinct hknown).2 (.inr ?_)⟩
  have hwrites : Samples.person.writes cells =
      [([1, 0], .text "Ghent"), ([0], .bool true), ([1, 1], .null)] := by decide
  rw [hwrites]
  rintro w hw ⟨hnull, -⟩
  have hcases : w = ([1, 0], ColumnValue.text "Ghent") ∨ w = ([0], ColumnValue.bool true) ∨
      w = ([1, 1], ColumnValue.null) := by simpa using hw
  rcases hcases with rfl | rfl | rfl
  · cases hnull
  · cases hnull
  · exact ⟨_, rfl, rfl⟩

end Fields

end SqlBinding.Record
