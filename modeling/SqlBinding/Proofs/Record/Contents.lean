import SqlBinding.Proofs.Record.ColumnOrder
import SqlBinding.Proofs.Record.Locality

/-!
# What a bound record holds

A row of writes is followed through from the default record. Each of them puts a converted value at
its path and leaves the leaves at other paths alone, except that records which it fills in come with
the defaults of their leaves (`FieldType.holds_put_other`); it fills in exactly the optional records
above its path (`FieldType.filledBy_put`).
-/

set_option autoImplicit false

namespace SqlBinding.Record

open Numeric

/-- Whether the optional records of a value are there exactly if they are so by default or lie above
one of the paths. -/
def FieldType.FilledBy (t : FieldType) (val : t.Val) (paths : Path → Prop) : Prop :=
  ∀ path inner filled (content : Option inner.Val),
    t.Holds val path ⟨.optional inner filled, content⟩ → inner.isLeaf = false →
      (content.isSome ↔ filled = true ∨ ∃ p, paths p ∧ path <+: p)

/-- Whether the optional records of fields are there exactly if they are so by default or lie above
one of the paths, each of which is taken from the field with its index. -/
def Fields.FilledBy (fs : Fields) (val : fs.Val) (paths : Nat → Path → Prop) : Prop :=
  ∀ index path inner filled (content : Option inner.Val),
    fs.Holds val index path ⟨.optional inner filled, content⟩ → inner.isLeaf = false →
      (content.isSome ↔ filled = true ∨ ∃ p, paths index p ∧ path <+: p)

namespace FieldType

variable {inner : FieldType} {filled : Bool} {paths : Path → Prop}

/-- A leaf holds no record. -/
theorem filledBy_of_isLeaf {t : FieldType} (hleaf : t.isLeaf) (val : t.Val) (paths : Path → Prop) :
    t.FilledBy val paths := by
  intro path inner filled content hholds hinner
  exact absurd hholds (not_holds_record hleaf hinner)

/-- By default only what is filled by default is there. -/
theorem filledBy_default (t : FieldType) : t.FilledBy t.default fun _ => False := by
  intro path inner filled content hholds _
  have hdefault : content = (optional inner filled).default := t.eq_default_of_holds hholds
  subst hdefault
  cases filled <;> simp [default]

/-- An optional record is there exactly if it is so by default or a path leads into it. -/
theorem filledBy_optional_iff (hinner : inner.isLeaf = false) {val : Option inner.Val} :
    (optional inner filled).FilledBy val paths ↔
      (val.isSome ↔ filled = true ∨ ∃ p, paths p) ∧
        ∀ content, val = some content → inner.FilledBy content paths := by
  constructor
  · intro h
    refine ⟨by simpa using h [] inner filled val (.inl ⟨rfl, rfl⟩) hinner, ?_⟩
    intro content hval path inner' filled' content' hholds
    exact h path inner' filled' content' (.inr ⟨content, hval, hholds⟩)
  · rintro ⟨hhere, hbelow⟩ path inner' filled' content' (⟨rfl, hpart⟩ | ⟨content, hval, hholds⟩)
    · intro _
      cases hpart
      simpa using hhere
    · exact hbelow content hval path inner' filled' content' hholds

/-- A box adds no optional record. -/
theorem filledBy_boxed_iff {val : inner.Val} :
    (boxed inner).FilledBy val paths ↔ inner.FilledBy val paths := by
  constructor
  · intro h path inner' filled' content' hholds
    exact h path inner' filled' content' (.inr hholds)
  · rintro h path inner' filled' content' (⟨-, hpart⟩ | hholds)
    · cases hpart
    · exact h path inner' filled' content' hholds

/-- A record is filled as its fields are. -/
theorem filledBy_record_iff {fields : Fields} {val : fields.Val} :
    (record fields).FilledBy val paths ↔
      fields.FilledBy val fun index rest => paths (index :: rest) := by
  -- Only paths through the index of a field lead below what the field holds.
  have hbelow (index : Nat) (rest : Path) : (∃ p, paths p ∧ index :: rest <+: p) ↔
      ∃ p, paths (index :: p) ∧ rest <+: p := by
    constructor
    · rintro ⟨p, hp, after, rfl⟩
      exact ⟨rest ++ after, hp, List.prefix_append rest after⟩
    · rintro ⟨p, hp, hprefix⟩
      exact ⟨index :: p, hp, List.cons_prefix_cons.2 ⟨rfl, hprefix⟩⟩
  constructor
  · intro h index rest inner filled content hholds hinner
    rw [h (index :: rest) inner filled content hholds hinner, hbelow]
  · intro h path inner filled content hholds hinner
    cases path with
    | nil => cases hholds
    | cons index rest => rw [h index rest inner filled content hholds hinner, hbelow]

end FieldType

mutual

/-- A value that is not NULL fills in the optional records above its path; NULL fills in none. -/
theorem FieldType.filledBy_put (t : FieldType) {val val' : t.Val} {path : Path} {v : ColumnValue}
    {paths : Path → Prop} (hfield : (t.field? path).isSome) (h : t.FilledBy val paths)
    (hput : t.put val path v = some val') :
    t.FilledBy val' fun p => paths p ∨ (v ≠ .null ∧ p = path) := by
  cases t with
  | leaf s d => exact FieldType.filledBy_of_isLeaf rfl _ _
  | optional inner filled =>
    cases hinner : inner.isLeaf with
    | true => exact FieldType.filledBy_of_isLeaf (t := .optional inner filled) hinner _ _
    | false =>
      rw [FieldType.isSome_field?_optional] at hfield
      obtain ⟨hhere, hbelow⟩ := (FieldType.filledBy_optional_iff hinner).1 h
      have hpath := FieldType.ne_nil_of_not_isLeaf hinner hfield
      refine (FieldType.filledBy_optional_iff hinner).2 ?_
      rcases FieldType.put_optional_below hpath hput with
        ⟨rfl, rfl, rfl⟩ | ⟨content, rfl, hcontent, hreached⟩
      · exact ⟨by simpa using hhere, nofun⟩
      · refine ⟨iff_of_true rfl ?_, ?_⟩
        · rcases hreached with hv | hsome
          · exact .inr ⟨path, .inr ⟨hv, rfl⟩⟩
          · exact (hhere.1 hsome).imp id fun ⟨p, hp⟩ => ⟨p, .inl hp⟩
        · rintro _ ⟨⟩
          cases val with
          | some old => exact inner.filledBy_put hfield (hbelow old rfl) hcontent
          | none =>
            -- What has been missing lies above none of the paths.
            obtain rfl : paths = fun _ => False := by
              funext p
              refine eq_false fun hp => ?_
              cases hhere.2 (.inr ⟨p, hp⟩)
            exact inner.filledBy_put hfield inner.filledBy_default hcontent
  | boxed inner =>
    rw [FieldType.isSome_field?_boxed] at hfield
    rw [FieldType.put_boxed] at hput
    exact FieldType.filledBy_boxed_iff.2
      (inner.filledBy_put hfield (FieldType.filledBy_boxed_iff.1 h) hput)
  | record fields =>
    cases path with
    | nil => cases hfield
    | cons index rest =>
      rw [FieldType.put_record] at hput
      rw [FieldType.filledBy_record_iff] at h ⊢
      simpa using fields.filledBy_put hfield h hput

/-- A write fills in the records above its path, unless it writes NULL. -/
theorem Fields.filledBy_put (fs : Fields) {val val' : fs.Val} {index : Nat} {rest : Path}
    {v : ColumnValue} {paths : Nat → Path → Prop} (hfield : (fs.field? index rest).isSome)
    (h : fs.FilledBy val paths) (hput : fs.put val index rest v = some val') :
    fs.FilledBy val' fun i p => paths i p ∨ (v ≠ .null ∧ i = index ∧ p = rest) := by
  cases fs with
  | nil => cases hfield
  | cons name column skipped type others =>
    intro i path inner filled content hholds hinner
    cases index with
    | zero =>
      cases skipped with
      | true => cases hfield
      | false =>
        rw [Fields.put_zero] at hput
        obtain ⟨first, hfirst, rfl⟩ := Option.map_eq_some_iff.1 hput
        cases i with
        | zero =>
          have htype : type.FilledBy val.1 (paths 0) := h 0
          simpa using type.filledBy_put hfield htype hfirst path inner filled content hholds hinner
        | succ i => simpa using h (i + 1) path inner filled content hholds hinner
    | succ index =>
      rw [Fields.put_succ] at hput
      obtain ⟨later, hlater, rfl⟩ := Option.map_eq_some_iff.1 hput
      cases i with
      | zero => simpa using h 0 path inner filled content hholds hinner
      | succ i =>
        have hothers : others.FilledBy val.2 fun i => paths (i + 1) := fun i => h (i + 1)
        simpa using others.filledBy_put hfield hothers hlater i path inner filled content hholds
          hinner

end

namespace FieldType

variable {t : FieldType} {val val' : t.Val} {ws : Writes}

/-- Writes at other paths leave a leaf as it is, and every leaf that they bring in has its
default. -/
theorem holds_puts_other {path : Path} {part : Part} (h : t.Apart ws)
    (hne : ∀ w ∈ ws, path ≠ w.1) (hleaf : part.1.isLeaf) (hputs : t.puts val ws = some val') :
    (t.Holds val path part → t.Holds val' path part) ∧
      (t.Holds val' path part → t.Holds val path part ∨ part.2 = part.1.default) := by
  induction ws generalizing val with
  | nil =>
    cases hputs
    exact ⟨id, .inl⟩
  | cons w ws ih =>
    obtain ⟨next, hput, hputs⟩ := Option.bind_eq_some_iff.1 hputs
    obtain ⟨hkept, hmade⟩ := t.holds_put_other (h.field w (by simp)) (hne w (by simp)) hleaf hput
    obtain ⟨hkept', hmade'⟩ := ih h.tail (fun w' hw' => hne w' (by simp [hw'])) hputs
    refine ⟨fun hholds => hkept' (hkept hholds), fun hholds => ?_⟩
    rcases hmade' hholds with hnext | hdefault
    · exact (hmade hnext).imp_right fun hbrought => hbrought.2.1
    · exact .inr hdefault

/-- What writes at different paths have written is found at each of the paths. -/
theorem holds_puts (h : t.Apart ws) (hputs : t.puts val ws = some val')
    {w : Path × ColumnValue} (hw : w ∈ ws) (hv : w.2 ≠ .null) :
    ∃ s d x, s.ofColumn w.2 = .ok x ∧ t.Holds val' w.1 ⟨.leaf s d, x⟩ := by
  induction ws generalizing val with
  | nil => cases hw
  | cons first ws ih =>
    obtain ⟨next, hput, hrest⟩ := Option.bind_eq_some_iff.1 hputs
    rcases List.mem_cons.1 hw with rfl | hw
    · obtain ⟨s, d, x, hx, hholds⟩ := t.holds_put (h.field w (by simp)) hv hput
      have hothers : ∀ w' ∈ ws, w.1 ≠ w'.1 := fun w' hw' => (h.ne hw').symm
      exact ⟨s, d, x, hx, (holds_puts_other h.tail hothers rfl hrest).1 hholds⟩
    · exact ih h.tail hrest hw

/-- Writes fill in the optional records above those of their paths at which a value is written that
is not NULL. -/
theorem filledBy_puts {paths : Path → Prop} (h : t.Apart ws) (hfilled : t.FilledBy val paths)
    (hputs : t.puts val ws = some val') :
    t.FilledBy val' fun p => paths p ∨ ∃ w ∈ ws, w.2 ≠ .null ∧ p = w.1 := by
  induction ws generalizing val paths with
  | nil =>
    cases hputs
    simpa using hfilled
  | cons w ws ih =>
    obtain ⟨next, hput, hputs⟩ := Option.bind_eq_some_iff.1 hputs
    have hnext := t.filledBy_put (h.field w (by simp)) hfilled hput
    simpa [or_assoc] using ih h.tail hnext hputs

end FieldType

namespace Fields

variable {fs : Fields} {cells : List (String × ColumnValue)}

/-- What a record holds to which a row has been bound. -/
structure Received (fs : Fields) (cells : List (String × ColumnValue)) (r : fs.Val) : Prop where
  /-- Every value but NULL is found where its column leads, as the leaf there converts it. -/
  value : ∀ column v, (column, v) ∈ cells → v ≠ .null → ∃ path s d x,
    fs.table.get? column = some path ∧ s.ofColumn v = .ok x ∧
      (FieldType.record fs).Holds r path ⟨.leaf s d, x⟩
  /-- An optional record that is not filled by default is there exactly if a value but NULL came for
  a column that leads below it. -/
  present : ∀ path inner filled (content : Option inner.Val),
    (FieldType.record fs).Holds r path ⟨.optional inner filled, content⟩ → inner.isLeaf = false →
      (content.isSome ↔ filled = true ∨ ∃ column v p, (column, v) ∈ cells ∧ v ≠ .null ∧
        fs.table.get? column = some p ∧ path <+: p)
  /-- A leaf that no column leads to has its default. -/
  untouched : ∀ path part, (FieldType.record fs).Holds r path part → part.1.isLeaf →
    (∀ cell ∈ cells, fs.table.get? cell.1 ≠ some path) → part.2 = part.1.default

/-- Whether an error is that of the first column of a row whose value cannot be written. -/
def StopsAt (fs : Fields) (cells : List (String × ColumnValue)) (e : Error) : Prop :=
  ∃ before column v after r path cause, cells = before ++ (column, v) :: after ∧
    fs.bindRow before = .ok r ∧ fs.table.get? column = some path ∧
      (fs.scanField r path v).2 = .error cause ∧ e = .scan column cause

/-- Writing stops at the first write that fails. -/
theorem writeFields_eq_error {plan : RowPlan} {ws : Writes} {index : Nat} {r : fs.Val} {e : Error}
    (h : plan.writeFields fs index r ws = .error e) :
    ∃ before w after r' cause, ws = before ++ w :: after ∧
      (FieldType.record fs).puts r before = some r' ∧
        (fs.scanField r' w.1 w.2).2 = .error cause ∧
          e = plan.scanError (index + before.length) cause := by
  induction ws generalizing index r with
  | nil => cases h
  | cons w ws ih =>
    obtain ⟨path, v⟩ := w
    rw [RowPlan.writeFields] at h
    rcases hscan : fs.scanField r path v with ⟨next, outcome⟩
    rw [hscan] at h
    cases outcome with
    | error cause =>
      refine ⟨[], (path, v), ws, r, cause, rfl, rfl, congrArg Prod.snd hscan, ?_⟩
      exact (Except.error.inj h).symm
    | ok u =>
      obtain ⟨before, w, after, r', cause, rfl, hputs, hcause, he⟩ := ih h
      refine ⟨(path, v) :: before, w, after, r', cause, rfl, ?_, hcause, ?_⟩
      · have hput : (FieldType.record fs).put r path v = some next := by
          have hwrite : (FieldType.record fs).write r path v = (next, .ok u) := hscan
          rw [FieldType.put, hwrite]
          rfl
        rw [FieldType.puts, hput]
        exact hputs
      · rw [he, List.length_cons, Nat.add_assoc, Nat.add_comm 1]

/-- The path of a known column is that in the table. -/
theorem get?_eq_pathOf {column : String} (h : (fs.table.get? column).isSome) :
    fs.table.get? column = some (fs.pathOf column) := by
  obtain ⟨path, hpath⟩ := Option.isSome_iff_exists.1 h
  rw [pathOf, hpath, Option.getD_some]

/-- A row that is not bound fails at the first column whose value cannot be written. -/
theorem stopsAt_of_bindRow (hknown : ∀ cell ∈ cells, (fs.table.get? cell.1).isSome) {e : Error}
    (h : fs.bindRow cells = .error e) : fs.StopsAt cells e := by
  rw [bindRow_eq hknown] at h
  obtain ⟨ws, w, ws', r, cause, hws, hputs, hcause, rfl⟩ := writeFields_eq_error h
  obtain ⟨before, rest, rfl, rfl, hrest⟩ := List.map_eq_append_iff.1 hws
  obtain ⟨⟨column, v⟩, after, rfl, rfl, -⟩ := List.map_eq_cons_iff.1 hrest
  refine ⟨before, column, v, after, r, fs.pathOf column, cause, rfl, ?_, ?_, hcause, ?_⟩
  · have hbefore : ∀ cell ∈ before, (fs.table.get? cell.1).isSome := fun cell hcell =>
      hknown cell (List.mem_append_left _ hcell)
    have hsome : (fs.bindRow before).toOption = some r := (toOption_bindRow hbefore).trans hputs
    cases hbind : fs.bindRow before with
    | ok r' =>
      rw [hbind] at hsome
      cases hsome
      rfl
    | error e =>
      rw [hbind] at hsome
      cases hsome
  · exact get?_eq_pathOf (hknown (column, v) (by simp))
  · simp [RowPlan.scanError]

/-- A record to which a row is bound holds what it has received. -/
theorem received_of_bindRow (hdistinct : (cells.map Prod.fst).Nodup)
    (hknown : ∀ cell ∈ cells, (fs.table.get? cell.1).isSome) {r : fs.Val}
    (h : fs.bindRow cells = .ok r) : fs.Received cells r := by
  have hapart := apart_writes hdistinct hknown
  have hputs : (FieldType.record fs).puts fs.default (fs.writes cells) = some r := by
    rw [← toOption_bindRow hknown, h]
    rfl
  have hwrite : ∀ column v, (column, v) ∈ cells → (fs.pathOf column, v) ∈ fs.writes cells :=
    fun column v hcell => List.mem_map_of_mem (f := fun cell => (fs.pathOf cell.1, cell.2)) hcell
  constructor
  · intro column v hcell hv
    obtain ⟨s, d, x, hx, hholds⟩ := FieldType.holds_puts hapart hputs (hwrite column v hcell) hv
    exact ⟨fs.pathOf column, s, d, x, get?_eq_pathOf (hknown _ hcell), hx, hholds⟩
  · intro path inner filled content hholds hinner
    have hfilled := FieldType.filledBy_puts hapart (FieldType.filledBy_default _) hputs
    rw [hfilled path inner filled content hholds hinner]
    refine or_congr_right ⟨?_, ?_⟩
    · rintro ⟨p, hfalse | ⟨w, hw, hv, rfl⟩, hprefix⟩
      · cases hfalse
      · obtain ⟨⟨column, v⟩, hcell, rfl⟩ := List.mem_map.1 hw
        exact ⟨column, v, _, hcell, hv, get?_eq_pathOf (hknown _ hcell), hprefix⟩
    · rintro ⟨column, v, p, hcell, hv, hpath, hprefix⟩
      have hp : fs.pathOf column = p := by rw [pathOf, hpath, Option.getD_some]
      exact ⟨p, .inr ⟨_, hwrite column v hcell, hv, hp.symm⟩, hprefix⟩
  · intro path part hholds hleaf hother
    have hne : ∀ w ∈ fs.writes cells, path ≠ w.1 := by
      intro w hw heq
      obtain ⟨cell, hcell, rfl⟩ := List.mem_map.1 hw
      exact hother cell hcell (heq ▸ get?_eq_pathOf (hknown cell hcell))
    rcases (FieldType.holds_puts_other hapart hne hleaf hputs).2 hholds with hbefore | hdefault
    · exact (FieldType.record fs).eq_default_of_holds hbefore
    · exact hdefault

/-- Binding a row with different known columns leaves a record that holds what the row brought, and
has its defaults elsewhere, or it fails at the first column whose value cannot be written. -/
theorem bindRow_outcome (hdistinct : (cells.map Prod.fst).Nodup)
    (hknown : ∀ cell ∈ cells, (fs.table.get? cell.1).isSome) :
    match fs.bindRow cells with
    | .ok r => fs.Received cells r
    | .error e => fs.StopsAt cells e := by
  split
  · rename_i h
    exact received_of_bindRow hdistinct hknown h
  · rename_i h
    exact stopsAt_of_bindRow hknown h

/-- A zip code brings a home into a person, with the default for its city; a NULL that comes for the
city behind it is refused. -/
theorem bindRow_outcome_person :
    let five : I64 := ⟨5, by decide, by decide⟩
    let cells := [("zip", ColumnValue.int five), ("id", .bool true)]
    let cells' := [("zip", ColumnValue.int five), ("city", .null), ("id", .text "x")]
    ((cells.map Prod.fst).Nodup ∧ (∀ cell ∈ cells, (Samples.person.table.get? cell.1).isSome) ∧
      Samples.person.Received cells (IntKind.i64.ofBool true, some ("", some five, ()), ())) ∧
    (cells'.map Prod.fst).Nodup ∧ (∀ cell ∈ cells', (Samples.person.table.get? cell.1).isSome) ∧
      Samples.person.StopsAt cells' (.scan "city" (.unexpectedNull "String")) := by
  intro five cells cells'
  have hdistinct : (cells.map Prod.fst).Nodup := by decide
  have hknown : ∀ cell ∈ cells, (Samples.person.table.get? cell.1).isSome := by decide
  have hdistinct' : (cells'.map Prod.fst).Nodup := by decide
  have hknown' : ∀ cell ∈ cells', (Samples.person.table.get? cell.1).isSome := by decide
  exact ⟨⟨hdistinct, hknown, bindRow_outcome hdistinct hknown⟩, hdistinct', hknown',
    bindRow_outcome hdistinct' hknown'⟩

end Fields

end SqlBinding.Record
