import SqlBinding.Proofs.Record.Paths
import SqlBinding.Record.Write

/-!
# What a write does to the other fields

Writes at different paths of a record meet in the optional records above both paths: one that is
missing drops a NULL, and the first other value below it fills it in with its default. `guard?` is
the last of the optional fields above a path that is missing by default, `Open` says that none above
a path is missing, and `Fresh` that nothing has been written at it.
-/

set_option autoImplicit false

namespace SqlBinding.Record

/-- What has been written, unless the write failed. -/
def written {α : Type} : α × Except ScanError Unit → Option α
  | (new, .ok ()) => some new
  | (_, .error _) => none

/-- What is made of a written field is made of the outcome. -/
theorem written_map {α β : Type} (f : α → β) (x : α × Except ScanError Unit) :
    written (f x.1, x.2) = (written x).map f := by
  obtain ⟨new, outcome⟩ := x
  cases outcome <;> rfl

/-- The field after a write, unless the write fails. -/
def FieldType.put (t : FieldType) (old : t.Val) (path : Path) (v : ColumnValue) : Option t.Val :=
  written (t.write old path v)

/-- The fields after a write below the one with the given index, unless the write fails. -/
def Fields.put (fs : Fields) (old : fs.Val) (index : Nat) (rest : Path) (v : ColumnValue) :
    Option fs.Val :=
  written (fs.write index rest [] old v)

/-- The path that an error would name is of no account to a write that succeeds. -/
theorem Fields.written_write (fs : Fields) (old : fs.Val) (index : Nat) (rest path : Path)
    (v : ColumnValue) : written (fs.write index rest path old v) = fs.put old index rest v := by
  cases fs with
  | nil => rfl
  | cons name column skipped type others =>
    cases index with
    | zero =>
      rw [put, write, write]
      cases skipped <;> rfl
    | succ index =>
      rw [put, write, write]
      simp only [written_map, others.written_write]

namespace FieldType

variable {inner : FieldType} {filled : Bool} {index : Nat} {rest : Path} {v : ColumnValue}

/-- A missing record stays missing when it receives NULL. -/
theorem put_optional_dropped :
    (optional inner filled).put none (index :: rest) .null = some none := rfl

/-- A record that is there receives NULL like any other value. -/
theorem put_optional_null (content : inner.Val) :
    (optional inner filled).put (some content) (index :: rest) .null =
      (inner.put content (index :: rest) .null).map some :=
  written_map some (inner.write content (index :: rest) .null)

/-- A value that is not NULL is received by the content, a missing one being filled in first. -/
theorem put_optional (hv : v ≠ .null) (old : Option inner.Val) (path : Path) :
    (optional inner filled).put old path v =
      (inner.put (old.getD inner.default) path v).map some := by
  cases v with
  | null => exact absurd rfl hv
  | bool | int | float | text | bytes | timestamp =>
    exact written_map some (inner.write (old.getD inner.default) path _)

/-- A record that is there is written in its place. -/
theorem put_optional_some (content : inner.Val) (v : ColumnValue) :
    (optional inner filled).put (some content) (index :: rest) v =
      (inner.put content (index :: rest) v).map some := by
  by_cases hv : v = .null
  · subst hv
    exact put_optional_null content
  · exact put_optional hv (some content) (index :: rest)

/-- A box is written as its content. -/
theorem put_boxed (old : inner.Val) (path : Path) (v : ColumnValue) :
    (boxed inner).put old path v = inner.put old path v := by
  rw [put, write, put]

/-- A record is written as its fields. -/
theorem put_record (fields : Fields) (old : fields.Val) :
    (record fields).put old (index :: rest) v = fields.put old index rest v := by
  rw [put, write, Fields.written_write]

end FieldType

namespace Fields

/-- A write at the first field leaves the others alone. -/
theorem put_zero (name column : String) (type : FieldType) (others : Fields)
    (old : type.Val × others.Val) (rest : Path) (v : ColumnValue) :
    (cons name column false type others).put old 0 rest v =
      (type.put old.1 rest v).map fun first => (first, old.2) :=
  written_map (fun first => (first, old.2)) (type.write old.1 rest v)

/-- A write behind the first field leaves it alone. -/
theorem put_succ (name column : String) (skipped : Bool) (type : FieldType) (others : Fields)
    (old : type.Val × others.Val) (index : Nat) (rest : Path) (v : ColumnValue) :
    (cons name column skipped type others).put old (index + 1) rest v =
      (others.put old.2 index rest v).map fun later => (old.1, later) :=
  written_map (fun later => (old.1, later)) (others.write index rest [] old.2 v)

end Fields

mutual

/-- The path to the last of the optional fields above a path that are missing by default. A field is
above a path that leads to a field of the record in it. -/
def FieldType.guard? : FieldType → Path → Option Path
  | .leaf _ _, _ => none
  | .optional _ _, [] => none
  | .optional inner filled, index :: rest =>
    match inner.guard? (index :: rest) with
    | some path => some path
    | none => if filled then none else some []
  | .boxed inner, path => inner.guard? path
  | .record _, [] => none
  | .record fields, index :: rest => (fields.guard? index rest).map (index :: ·)

/-- The path to the last of the optional fields above a path, from the field with the given
index. -/
def Fields.guard? : Fields → Nat → Path → Option Path
  | .nil, _, _ => none
  | .cons _ _ _ type _, 0, rest => type.guard? rest
  | .cons _ _ _ _ others, index + 1, rest => others.guard? index rest

end

mutual

/-- Whether none of the optional fields above a path is missing. -/
def FieldType.Open : (t : FieldType) → t.Val → Path → Prop
  | .leaf _ _, _, _ => True
  | .optional _ _, _, [] => True
  | .optional _ _, none, _ :: _ => False
  | .optional inner _, some content, index :: rest => inner.Open content (index :: rest)
  | .boxed inner, val, path => inner.Open val path
  | .record _, _, [] => True
  | .record fields, val, index :: rest => fields.Open val index rest

/-- Whether none of the optional fields above a path is missing, from the field with the given
index. -/
def Fields.Open : (fs : Fields) → fs.Val → Nat → Path → Prop
  | .nil, _, _, _ => True
  | .cons _ _ _ type _, val, 0, rest => type.Open val.1 rest
  | .cons _ _ _ _ others, val, index + 1, rest => others.Open val.2 index rest

end

mutual

/-- Whether the field at a path has its default, as far as there is one; only fields that are
missing by default may be missing above it. -/
def FieldType.Fresh : (t : FieldType) → t.Val → Path → Prop
  | .leaf _ d, val, _ => val = d
  | .optional inner filled, val, [] => val = (FieldType.optional inner filled).default
  | .optional _ filled, none, _ :: _ => filled = false
  | .optional inner _, some content, index :: rest => inner.Fresh content (index :: rest)
  | .boxed inner, val, path => inner.Fresh val path
  | .record _, _, [] => True
  | .record fields, val, index :: rest => fields.Fresh val index rest

/-- Whether the field at a path has its default, from the field with the given index. -/
def Fields.Fresh : (fs : Fields) → fs.Val → Nat → Path → Prop
  | .nil, _, _, _ => True
  | .cons _ _ _ type _, val, 0, rest => type.Fresh val.1 rest
  | .cons _ _ _ _ others, val, index + 1, rest => others.Fresh val.2 index rest

end

mutual

/-- Nothing has been written into the default. -/
theorem FieldType.fresh_default (t : FieldType) (path : Path) : t.Fresh t.default path := by
  cases t with
  | leaf s d => rfl
  | optional inner filled =>
    cases path with
    | nil => rfl
    | cons index rest =>
      cases filled with
      | false => rfl
      | true => exact inner.fresh_default (index :: rest)
  | boxed inner => exact inner.fresh_default path
  | record fields =>
    cases path with
    | nil => trivial
    | cons index rest => exact fields.fresh_default index rest

/-- In the default record every field has its default. -/
theorem Fields.fresh_default (fs : Fields) (index : Nat) (rest : Path) :
    fs.Fresh fs.default index rest := by
  cases fs with
  | nil => trivial
  | cons name column skipped type others =>
    cases index with
    | zero => exact type.fresh_default rest
    | succ index => exact others.fresh_default index rest

end

/-- The guard of a path through an optional field. -/
theorem FieldType.guard?_optional_eq_none_iff {inner : FieldType} {filled : Bool} {index : Nat}
    {rest : Path} :
    (FieldType.optional inner filled).guard? (index :: rest) = none ↔
      inner.guard? (index :: rest) = none ∧ filled = true := by
  rw [guard?]
  cases inner.guard? (index :: rest) <;> cases filled <;> simp

mutual

/-- Where no optional field above a path is missing by default, none is until one is written. -/
theorem FieldType.open_of_fresh (t : FieldType) {val : t.Val} {path : Path}
    (hguard : t.guard? path = none) (hfresh : t.Fresh val path) : t.Open val path := by
  cases t with
  | leaf s d => trivial
  | optional inner filled =>
    cases path with
    | nil => trivial
    | cons index rest =>
      obtain ⟨hinner, rfl⟩ := FieldType.guard?_optional_eq_none_iff.1 hguard
      cases val with
      | none => cases hfresh
      | some content => exact inner.open_of_fresh hinner hfresh
  | boxed inner => exact inner.open_of_fresh hguard hfresh
  | record fields =>
    cases path with
    | nil => trivial
    | cons index rest => exact fields.open_of_fresh (Option.map_eq_none_iff.1 hguard) hfresh

/-- A path below no missing record stays open while its field has its default. -/
theorem Fields.open_of_fresh (fs : Fields) {val : fs.Val} {index : Nat} {rest : Path}
    (hguard : fs.guard? index rest = none) (hfresh : fs.Fresh val index rest) :
    fs.Open val index rest := by
  cases fs with
  | nil => trivial
  | cons name column skipped type others =>
    cases index with
    | zero => exact type.open_of_fresh hguard hfresh
    | succ index => exact others.open_of_fresh hguard hfresh

end

mutual

/-- An optional field above a path that is missing by default is missing in the default. -/
theorem FieldType.guard?_of_open_default (t : FieldType) {path : Path}
    (hopen : t.Open t.default path) : t.guard? path = none := by
  cases t with
  | leaf s d => rfl
  | optional inner filled =>
    cases path with
    | nil => rfl
    | cons index rest =>
      cases filled with
      | false => exact absurd hopen id
      | true =>
        exact FieldType.guard?_optional_eq_none_iff.2 ⟨inner.guard?_of_open_default hopen, rfl⟩
  | boxed inner => exact inner.guard?_of_open_default hopen
  | record fields =>
    cases path with
    | nil => rfl
    | cons index rest => exact Option.map_eq_none_iff.2 (fields.guard?_of_open_default hopen)

/-- Above a path that is open by default, nothing is missing by default. -/
theorem Fields.guard?_of_open_default (fs : Fields) {index : Nat} {rest : Path}
    (hopen : fs.Open fs.default index rest) : fs.guard? index rest = none := by
  cases fs with
  | nil => rfl
  | cons name column skipped type others =>
    cases index with
    | zero => exact type.guard?_of_open_default hopen
    | succ index => exact others.guard?_of_open_default hopen

end

mutual

/-- NULL is dropped where an optional field above the path is missing. -/
theorem FieldType.put_null_of_not_open (t : FieldType) {val : t.Val} {path : Path}
    (hfield : (t.field? path).isSome) (hclosed : ¬ t.Open val path) :
    t.put val path .null = some val := by
  cases t with
  | leaf s d => exact absurd trivial hclosed
  | optional inner filled =>
    cases path with
    | nil => exact absurd trivial hclosed
    | cons index rest =>
      cases val with
      | none => exact FieldType.put_optional_dropped
      | some content =>
        rw [FieldType.put_optional_null, inner.put_null_of_not_open hfield hclosed, Option.map_some]
  | boxed inner =>
    rw [FieldType.put_boxed]
    exact inner.put_null_of_not_open ((FieldType.isSome_field?_boxed inner path).symm.trans hfield)
      hclosed
  | record fields =>
    cases path with
    | nil => exact absurd trivial hclosed
    | cons index rest =>
      rw [FieldType.put_record]
      exact fields.put_null_of_not_open hfield hclosed

/-- NULL below a missing record is dropped. -/
theorem Fields.put_null_of_not_open (fs : Fields) {val : fs.Val} {index : Nat} {rest : Path}
    (hfield : (fs.field? index rest).isSome) (hclosed : ¬ fs.Open val index rest) :
    fs.put val index rest .null = some val := by
  cases fs with
  | nil => exact absurd trivial hclosed
  | cons name column skipped type others =>
    cases index with
    | zero =>
      cases skipped with
      | true => cases hfield
      | false =>
        rw [Fields.put_zero, type.put_null_of_not_open hfield hclosed, Option.map_some]
    | succ index =>
      rw [Fields.put_succ, others.put_null_of_not_open hfield hclosed, Option.map_some]

end

/-- A fresh leaf has its default. -/
theorem FieldType.eq_default_of_fresh {t : FieldType} {val : t.Val} (hleaf : t.isLeaf)
    (hfresh : t.Fresh val []) : val = t.default := by
  cases t with
  | leaf s d => exact hfresh
  | optional inner filled => exact hfresh
  | boxed inner => exact FieldType.eq_default_of_fresh (t := inner) hleaf hfresh
  | record fields => cases hleaf

mutual

/-- The field at a path is written as one that stands alone and has its default, if nothing has been
written at the path and no optional field above it drops the value. -/
theorem FieldType.exists_plug (t : FieldType) {val : t.Val} {path : Path} {field : FieldType}
    (hfield : t.field? path = some field) (hfresh : t.Fresh val path) :
    ∃ plug : field.Val → t.Val, (∀ a b, plug a = plug b → a = b) ∧
      (t.Open val path → plug field.default = val) ∧
      ∀ v, v ≠ .null ∨ t.Open val path →
        t.put val path v = (field.put field.default [] v).map plug := by
  cases path with
  | nil =>
    rw [FieldType.field?_nil] at hfield
    split at hfield
    · rename_i hleaf
      cases hfield
      obtain rfl := FieldType.eq_default_of_fresh hleaf hfresh
      exact ⟨id, fun _ _ h => h, fun _ => rfl, fun v _ => by simp⟩
    · cases hfield
  | cons index rest =>
    cases t with
    | leaf s d => cases hfield
    | optional inner filled =>
      cases val with
      | none =>
        -- Only a value reaches the field; it is written into the default of the missing content.
        obtain ⟨plug, hinj, -, hput⟩ :=
          inner.exists_plug hfield (inner.fresh_default (index :: rest))
        refine ⟨fun x => some (plug x), fun a b h => hinj a b (Option.some.inj h),
          fun h => absurd h id, fun v hv => ?_⟩
        have hv : v ≠ .null := hv.resolve_right id
        rw [FieldType.put_optional hv, Option.getD_none, hput v (.inl hv), Option.map_map]
        rfl
      | some content =>
        obtain ⟨plug, hinj, hopen, hput⟩ := inner.exists_plug hfield hfresh
        refine ⟨fun x => some (plug x), fun a b h => hinj a b (Option.some.inj h),
          fun h => congrArg some (hopen h), fun v hv => ?_⟩
        by_cases hnull : v = .null
        · subst hnull
          rw [FieldType.put_optional_null, hput .null hv, Option.map_map]
          rfl
        · rw [FieldType.put_optional hnull, Option.getD_some, hput v hv, Option.map_map]
          rfl
    | boxed inner =>
      obtain ⟨plug, hinj, hopen, hput⟩ := inner.exists_plug hfield hfresh
      exact ⟨plug, hinj, hopen, fun v hv => (FieldType.put_boxed _ _ _).trans (hput v hv)⟩
    | record fields =>
      obtain ⟨plug, hinj, hopen, hput⟩ := fields.exists_plug hfield hfresh
      exact ⟨plug, hinj, hopen, fun v hv => (FieldType.put_record _ _).trans (hput v hv)⟩

/-- A fresh field is written alone: from its new value the fields are put together, each in one way.
-/
theorem Fields.exists_plug (fs : Fields) {val : fs.Val} {index : Nat} {rest : Path}
    {field : FieldType} (hfield : fs.field? index rest = some field)
    (hfresh : fs.Fresh val index rest) :
    ∃ plug : field.Val → fs.Val, (∀ a b, plug a = plug b → a = b) ∧
      (fs.Open val index rest → plug field.default = val) ∧
      ∀ v, v ≠ .null ∨ fs.Open val index rest →
        fs.put val index rest v = (field.put field.default [] v).map plug := by
  cases fs with
  | nil => cases hfield
  | cons name column skipped type others =>
    cases index with
    | zero =>
      cases skipped with
      | true => cases hfield
      | false =>
        obtain ⟨plug, hinj, hopen, hput⟩ := type.exists_plug hfield hfresh
        refine ⟨fun x => (plug x, val.2), fun a b h => hinj a b (congrArg Prod.fst h),
          fun h => congrArg (fun x => (x, val.2)) (hopen h), fun v hv => ?_⟩
        rw [Fields.put_zero, hput v hv, Option.map_map]
        rfl
    | succ index =>
      obtain ⟨plug, hinj, hopen, hput⟩ := others.exists_plug hfield hfresh
      refine ⟨fun x => (val.1, plug x), fun a b h => hinj a b (congrArg Prod.snd h),
        fun h => congrArg (fun x => (val.1, x)) (hopen h), fun v hv => ?_⟩
      rw [Fields.put_succ, hput v hv, Option.map_map]
      rfl

end

/-- No path leads into a leaf. -/
theorem FieldType.eq_nil_of_isLeaf {t : FieldType} {path : Path} (hleaf : t.isLeaf)
    (hfield : (t.field? path).isSome) : path = [] := by
  cases path with
  | nil => rfl
  | cons index rest =>
    cases t with
    | leaf s d => cases hfield
    | optional inner filled => exact FieldType.eq_nil_of_isLeaf (t := inner) hleaf hfield
    | boxed inner => exact FieldType.eq_nil_of_isLeaf (t := inner) hleaf hfield
    | record fields => cases hleaf

/-- Two different paths of a type both lead below a record. -/
theorem FieldType.ne_nil_of_ne {t : FieldType} {path path' : Path}
    (hfield : (t.field? path).isSome) (hfield' : (t.field? path').isSome) (hne : path ≠ path') :
    path ≠ [] := by
  rintro rfl
  rw [FieldType.field?_nil] at hfield
  split at hfield
  · rename_i hleaf
    exact hne (FieldType.eq_nil_of_isLeaf hleaf hfield').symm
  · cases hfield

/-- Whether a value that is not NULL at `path'` fills in the last of the optional fields above
`path` that are missing by default. -/
def FieldType.Wakes (t : FieldType) (path path' : Path) : Prop :=
  ∃ guard, t.guard? path = some guard ∧ guard <+: path'

/-- Whether a value that is not NULL at a path fills in the last optional field above another one,
each path from the field with its index. -/
def Fields.Wakes (fs : Fields) (index : Nat) (rest : Path) (index' : Nat) (rest' : Path) : Prop :=
  ∃ guard, fs.guard? index rest = some guard ∧ index = index' ∧ guard <+: rest'

/-- What wakes a field of a record. -/
theorem FieldType.wakes_record {fields : Fields} {index index' : Nat} {rest rest' : Path} :
    (FieldType.record fields).Wakes (index :: rest) (index' :: rest') ↔
      fields.Wakes index rest index' rest' := by
  constructor
  · rintro ⟨guard, hguard, hprefix⟩
    obtain ⟨inner, hinner, rfl⟩ := Option.map_eq_some_iff.1 hguard
    obtain ⟨hindex, hprefix⟩ := List.cons_prefix_cons.1 hprefix
    exact ⟨inner, hinner, hindex, hprefix⟩
  · rintro ⟨inner, hinner, hindex, hprefix⟩
    exact ⟨index :: inner, Option.map_eq_some_iff.2 ⟨inner, hinner, rfl⟩,
      List.cons_prefix_cons.2 ⟨hindex, hprefix⟩⟩

/-- What wakes a field below an optional one: what wakes it there, if something must; otherwise
anything below the optional field, if that is missing by default. -/
theorem FieldType.wakes_optional {inner : FieldType} {filled : Bool} {index : Nat}
    {rest path' : Path} :
    (FieldType.optional inner filled).Wakes (index :: rest) path' ↔
      inner.Wakes (index :: rest) path' ∨
        (inner.guard? (index :: rest) = none ∧ filled = false) := by
  unfold Wakes
  rw [guard?]
  cases inner.guard? (index :: rest) with
  | some guard => simp
  | none => cases filled <;> simp

mutual

/-- A write at another path leaves a fresh field fresh, and opens it exactly if it fills in what
must be. -/
theorem FieldType.put_other (t : FieldType) {val val' : t.Val} {path path' : Path} {v : ColumnValue}
    (hfield : (t.field? path).isSome) (hfield' : (t.field? path').isSome) (hne : path ≠ path')
    (hfresh : t.Fresh val path) (hput : t.put val path' v = some val') :
    t.Fresh val' path ∧
      (t.Open val' path ↔ t.Open val path ∨ (v ≠ .null ∧ t.Wakes path path')) := by
  obtain ⟨index, rest, rfl⟩ :=
    List.exists_cons_of_ne_nil (FieldType.ne_nil_of_ne hfield hfield' hne)
  obtain ⟨index', rest', rfl⟩ :=
    List.exists_cons_of_ne_nil (FieldType.ne_nil_of_ne hfield' hfield hne.symm)
  cases t with
  | leaf s d => cases hfield
  | optional inner filled =>
    rw [FieldType.wakes_optional]
    by_cases hnull : v = .null
    · subst hnull
      cases val with
      | none =>
        rw [FieldType.put_optional_dropped] at hput
        cases hput
        exact ⟨hfresh, by simp [FieldType.Open]⟩
      | some content =>
        rw [FieldType.put_optional_null] at hput
        obtain ⟨content', hcontent, rfl⟩ := Option.map_eq_some_iff.1 hput
        obtain ⟨hfresh', hopen⟩ := inner.put_other hfield hfield' hne hfresh hcontent
        exact ⟨hfresh', hopen.trans (by simp [FieldType.Open])⟩
    · rw [FieldType.put_optional hnull] at hput
      obtain ⟨content', hcontent, rfl⟩ := Option.map_eq_some_iff.1 hput
      cases val with
      | none =>
        have hdefault := inner.fresh_default (index :: rest)
        obtain ⟨hfresh', hopen⟩ := inner.put_other hfield hfield' hne hdefault hcontent
        refine ⟨hfresh', hopen.trans ?_⟩
        -- Once the missing record is filled in, what is still missing is so by default.
        have hguard : inner.Open inner.default (index :: rest) ↔
            inner.guard? (index :: rest) = none :=
          ⟨inner.guard?_of_open_default, fun h => inner.open_of_fresh h hdefault⟩
        have hfilled : filled = false := hfresh
        rw [hguard]
        simp [FieldType.Open, hnull, hfilled, or_comm]
      | some content =>
        obtain ⟨hfresh', hopen⟩ := inner.put_other hfield hfield' hne hfresh hcontent
        refine ⟨hfresh', hopen.trans ?_⟩
        -- If nothing below is missing by default, the path has been open before.
        have hguard : inner.guard? (index :: rest) = none → inner.Open content (index :: rest) :=
          fun h => inner.open_of_fresh h hfresh
        constructor
        · rintro (h | ⟨hv, h⟩)
          · exact .inl h
          · exact .inr ⟨hv, .inl h⟩
        · rintro (h | ⟨hv, h | ⟨h, -⟩⟩)
          · exact .inl h
          · exact .inr ⟨hv, h⟩
          · exact .inl (hguard h)
  | boxed inner =>
    rw [FieldType.put_boxed] at hput
    exact inner.put_other hfield hfield' hne hfresh hput
  | record fields =>
    rw [FieldType.put_record] at hput
    rw [FieldType.wakes_record]
    refine fields.put_other hfield hfield' (fun hindex hrest => hne ?_) hfresh hput
    rw [hindex, hrest]

/-- A write at another path keeps a field fresh, and opens its path exactly if it wakes it. -/
theorem Fields.put_other (fs : Fields) {val val' : fs.Val} {index index' : Nat} {rest rest' : Path}
    {v : ColumnValue} (hfield : (fs.field? index rest).isSome)
    (hfield' : (fs.field? index' rest').isSome) (hne : index = index' → rest ≠ rest')
    (hfresh : fs.Fresh val index rest) (hput : fs.put val index' rest' v = some val') :
    fs.Fresh val' index rest ∧
      (fs.Open val' index rest ↔
        fs.Open val index rest ∨ (v ≠ .null ∧ fs.Wakes index rest index' rest')) := by
  cases fs with
  | nil => cases hfield
  | cons name column skipped type others =>
    cases index' with
    | zero =>
      cases skipped with
      | true => cases hfield'
      | false =>
        rw [Fields.put_zero] at hput
        obtain ⟨first, hfirst, rfl⟩ := Option.map_eq_some_iff.1 hput
        cases index with
        | zero =>
          obtain ⟨hfresh', hopen⟩ := type.put_other hfield hfield' (hne rfl) hfresh hfirst
          refine ⟨hfresh', hopen.trans ?_⟩
          simp [Fields.Open, Fields.Wakes, FieldType.Wakes, Fields.guard?]
        | succ index => exact ⟨hfresh, by simp [Fields.Open, Fields.Wakes]⟩
    | succ index' =>
      rw [Fields.put_succ] at hput
      obtain ⟨later, hlater, rfl⟩ := Option.map_eq_some_iff.1 hput
      cases index with
      | zero => exact ⟨hfresh, by simp [Fields.Open, Fields.Wakes]⟩
      | succ index =>
        have hne : index = index' → rest ≠ rest' := fun h => hne (congrArg (· + 1) h)
        obtain ⟨hfresh', hopen⟩ := others.put_other hfield hfield' hne hfresh hlater
        exact ⟨hfresh', hopen.trans (by simp [Fields.Open, Fields.Wakes, Fields.guard?])⟩

end

/-- Whether the field at a path takes NULL and keeps its default by it. -/
def FieldType.Absorbs (t : FieldType) (path : Path) : Prop :=
  ∃ field, t.field? path = some field ∧
    field.put field.default [] .null = some field.default

/-- Whether the field at a path takes a value. -/
def FieldType.Takes (t : FieldType) (path : Path) (v : ColumnValue) : Prop :=
  ∃ field, t.field? path = some field ∧ (field.put field.default [] v).isSome

/-- A fresh field into which NULL reaches keeps its value exactly if it absorbs NULL. -/
theorem FieldType.put_null_eq_iff {t : FieldType} {val : t.Val} {path : Path}
    (hfield : (t.field? path).isSome) (hfresh : t.Fresh val path) (hopen : t.Open val path) :
    t.put val path .null = some val ↔ t.Absorbs path := by
  obtain ⟨field, hfield⟩ := Option.isSome_iff_exists.1 hfield
  obtain ⟨plug, hinj, hplug, hput⟩ := t.exists_plug hfield hfresh
  rw [hput .null (.inr hopen), Absorbs]
  constructor
  · intro h
    obtain ⟨new, hnew, heq⟩ := Option.map_eq_some_iff.1 h
    obtain rfl := hinj _ _ (heq.trans (hplug hopen).symm)
    exact ⟨field, hfield, hnew⟩
  · rintro ⟨field', hfield', habsorbs⟩
    obtain rfl := Option.some.inj (hfield.symm.trans hfield')
    rw [habsorbs, Option.map_some, hplug hopen]

/-- A fresh field that a value reaches is written if it takes the value. -/
theorem FieldType.isSome_put_iff {t : FieldType} {val : t.Val} {path : Path} {v : ColumnValue}
    (hfield : (t.field? path).isSome) (hfresh : t.Fresh val path)
    (hreached : v ≠ .null ∨ t.Open val path) :
    (t.put val path v).isSome ↔ t.Takes path v := by
  obtain ⟨field, hfield⟩ := Option.isSome_iff_exists.1 hfield
  obtain ⟨plug, -, -, hput⟩ := t.exists_plug hfield hfresh
  rw [hput v hreached, Option.isSome_map, Takes]
  constructor
  · intro h
    exact ⟨field, hfield, h⟩
  · rintro ⟨field', hfield', h⟩
    obtain rfl := Option.some.inj (hfield.symm.trans hfield')
    exact h

/-- Whether a NULL at one path and a value at another one may be written in either order: the value
does not make the NULL reach its field, or the field absorbs it. -/
def FieldType.Compatible (t : FieldType) (path : Path) (v : ColumnValue) (path' : Path)
    (v' : ColumnValue) : Prop :=
  v = .null → v' ≠ .null → t.Wakes path path' → t.Absorbs path

/-- NULL and a value below a missing record may be written in either order, if they may be below the
default and the default keeps by NULL. -/
theorem FieldType.put_comm_missing {inner : FieldType} {filled : Bool} {index index' : Nat}
    {rest rest' : Path} {v : ColumnValue} (hv : v ≠ .null)
    (hkeeps : inner.put inner.default (index :: rest) .null = some inner.default)
    (hcomm : (inner.put inner.default (index :: rest) .null).bind
        (inner.put · (index' :: rest') v) =
      (inner.put inner.default (index' :: rest') v).bind (inner.put · (index :: rest) .null)) :
    ((FieldType.optional inner filled).put none (index :: rest) .null).bind
        ((FieldType.optional inner filled).put · (index' :: rest') v) =
      ((FieldType.optional inner filled).put none (index' :: rest') v).bind
        ((FieldType.optional inner filled).put · (index :: rest) .null) := by
  rw [hkeeps, Option.bind_some] at hcomm
  rw [FieldType.put_optional_dropped, Option.bind_some, FieldType.put_optional hv, Option.getD_none]
  cases hput : inner.put inner.default (index' :: rest') v with
  | none => rfl
  | some content =>
    rw [hput, Option.bind_some] at hcomm
    rw [Option.map_some, Option.bind_some, FieldType.put_optional_null, ← hcomm]
    rfl

/-- Mapping the result of a step maps that of the whole. -/
theorem bind_map {α β γ : Type} (x : Option α) (f : α → Option β) (g : β → γ) :
    (x.bind fun a => (f a).map g) = (x.bind f).map g := by
  cases x <;> rfl

/-- NULL keeps the default of a fresh field if it is dropped there or absorbed. -/
theorem FieldType.put_default_null {t : FieldType} {path : Path} (hfield : (t.field? path).isSome)
    (h : t.guard? path = none → t.Absorbs path) : t.put t.default path .null = some t.default := by
  by_cases hopen : t.Open t.default path
  · exact (FieldType.put_null_eq_iff hfield (t.fresh_default path) hopen).2
      (h (t.guard?_of_open_default hopen))
  · exact t.put_null_of_not_open hfield hopen

/-- Writes into an optional record that may change places may do so in its content. -/
theorem FieldType.Compatible.inner {inner : FieldType} {filled : Bool} {index : Nat} {rest : Path}
    {path' : Path} {v v' : ColumnValue}
    (h : (FieldType.optional inner filled).Compatible (index :: rest) v path' v') :
    inner.Compatible (index :: rest) v path' v' :=
  fun hv hv' hwakes => h hv hv' (FieldType.wakes_optional.2 (.inl hwakes))

mutual

/-- Compatible writes to fresh fields at different paths may be done in either order. -/
theorem FieldType.put_comm (t : FieldType) {val : t.Val} {path path' : Path} {v v' : ColumnValue}
    (hfield : (t.field? path).isSome) (hfield' : (t.field? path').isSome) (hne : path ≠ path')
    (hfresh : t.Fresh val path) (hfresh' : t.Fresh val path')
    (hcompatible : t.Compatible path v path' v') (hcompatible' : t.Compatible path' v' path v) :
    (t.put val path v).bind (t.put · path' v') = (t.put val path' v').bind (t.put · path v) := by
  obtain ⟨index, rest, rfl⟩ :=
    List.exists_cons_of_ne_nil (FieldType.ne_nil_of_ne hfield hfield' hne)
  obtain ⟨index', rest', rfl⟩ :=
    List.exists_cons_of_ne_nil (FieldType.ne_nil_of_ne hfield' hfield hne.symm)
  cases t with
  | leaf s d => cases hfield
  | optional inner filled =>
    cases val with
    | some content =>
      have hcomm := inner.put_comm hfield hfield' hne hfresh hfresh' hcompatible.inner
        hcompatible'.inner
      simp only [FieldType.put_optional_some, Option.bind_map, Function.comp_def]
      rw [bind_map, bind_map, hcomm]
    | none =>
      have hfilled : filled = false := hfresh
      have hcomm := inner.put_comm hfield hfield' hne (inner.fresh_default (index :: rest))
        (inner.fresh_default (index' :: rest')) hcompatible.inner hcompatible'.inner
      -- Only a NULL and a value meet: the NULL is dropped in front of the value, and reaches the
      -- default behind it.
      by_cases hv : v = .null
      · by_cases hv' : v' = .null
        · subst hv hv'
          rw [FieldType.put_optional_dropped, FieldType.put_optional_dropped, Option.bind_some,
            Option.bind_some, FieldType.put_optional_dropped, FieldType.put_optional_dropped]
        · subst hv
          have hkeeps : inner.put inner.default (index :: rest) .null = some inner.default :=
            FieldType.put_default_null hfield fun h =>
              hcompatible rfl hv' (FieldType.wakes_optional.2 (.inr ⟨h, hfilled⟩))
          exact FieldType.put_comm_missing hv' hkeeps hcomm
      · by_cases hv' : v' = .null
        · subst hv'
          have hkeeps : inner.put inner.default (index' :: rest') .null = some inner.default :=
            FieldType.put_default_null hfield' fun h =>
              hcompatible' rfl hv (FieldType.wakes_optional.2 (.inr ⟨h, hfilled⟩))
          exact (FieldType.put_comm_missing hv hkeeps hcomm.symm).symm
        · simp only [FieldType.put_optional hv, FieldType.put_optional hv', Option.getD_none,
            Option.bind_map, Function.comp_def, Option.getD_some]
          rw [bind_map, bind_map, hcomm]
  | boxed inner =>
    simp only [FieldType.put_boxed]
    exact inner.put_comm hfield hfield' hne hfresh hfresh' hcompatible hcompatible'
  | record fields =>
    simp only [FieldType.put_record]
    refine fields.put_comm hfield hfield' (fun hindex hrest => hne ?_) hfresh hfresh' ?_ ?_
    · rw [hindex, hrest]
    · exact fun hv hv' hwakes => hcompatible hv hv' (FieldType.wakes_record.2 hwakes)
    · exact fun hv' hv hwakes => hcompatible' hv' hv (FieldType.wakes_record.2 hwakes)

/-- Compatible writes at different fresh paths may change places. -/
theorem Fields.put_comm (fs : Fields) {val : fs.Val} {index index' : Nat} {rest rest' : Path}
    {v v' : ColumnValue} (hfield : (fs.field? index rest).isSome)
    (hfield' : (fs.field? index' rest').isSome) (hne : index = index' → rest ≠ rest')
    (hfresh : fs.Fresh val index rest) (hfresh' : fs.Fresh val index' rest')
    (hcompatible : v = .null → v' ≠ .null → fs.Wakes index rest index' rest' →
      (FieldType.record fs).Absorbs (index :: rest))
    (hcompatible' : v' = .null → v ≠ .null → fs.Wakes index' rest' index rest →
      (FieldType.record fs).Absorbs (index' :: rest')) :
    (fs.put val index rest v).bind (fs.put · index' rest' v') =
      (fs.put val index' rest' v').bind (fs.put · index rest v) := by
  cases fs with
  | nil => cases hfield
  | cons name column skipped type others =>
    cases index with
    | zero =>
      cases skipped with
      | true => cases hfield
      | false =>
        cases index' with
        | zero =>
          have hwakes : ∀ {a b : Path}, type.Wakes a b →
              (Fields.cons name column false type others).Wakes 0 a 0 b :=
            fun ⟨guard, hguard, hprefix⟩ => ⟨guard, hguard, rfl, hprefix⟩
          have hcomm := type.put_comm hfield hfield' (hne rfl) hfresh hfresh'
            (fun hv hv' h => hcompatible hv hv' (hwakes h))
            (fun hv' hv h => hcompatible' hv' hv (hwakes h))
          simp only [Fields.put_zero, Option.bind_map, Function.comp_def]
          rw [bind_map, bind_map, hcomm]
        | succ index' =>
          -- Writes to different fields of one record do not meet.
          simp only [Fields.put_zero, Fields.put_succ, Option.bind_map, Function.comp_def]
          cases type.put val.1 rest v <;> cases others.put val.2 index' rest' v' <;> rfl
    | succ index =>
      cases index' with
      | zero =>
        cases skipped with
        | true => cases hfield'
        | false =>
          simp only [Fields.put_zero, Fields.put_succ, Option.bind_map, Function.comp_def]
          cases others.put val.2 index rest v <;> cases type.put val.1 rest' v' <;> rfl
      | succ index' =>
        have hwakes : ∀ {i j : Nat} {a b : Path}, others.Wakes i a j b →
            (Fields.cons name column skipped type others).Wakes (i + 1) a (j + 1) b :=
          fun ⟨guard, hguard, hindex, hprefix⟩ =>
            ⟨guard, hguard, congrArg (· + 1) hindex, hprefix⟩
        have hcomm := others.put_comm hfield hfield' (fun h => hne (congrArg (· + 1) h)) hfresh
          hfresh' (fun hv hv' h => hcompatible hv hv' (hwakes h))
          (fun hv' hv h => hcompatible' hv' hv (hwakes h))
        simp only [Fields.put_succ, Option.bind_map, Function.comp_def]
        rw [bind_map, bind_map, hcomm]

end

end SqlBinding.Record
