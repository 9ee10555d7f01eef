import SqlBinding.Record.FieldTable

/-!
# Writing a column value into a record

A value is scanned into the leaf at a path. A missing field on the way is filled with its default by
the first value that is not NULL; NULL leaves it missing. What has been filled in stays even if the
value then cannot be scanned, so a write returns the new record beside its outcome.
-/

set_option autoImplicit false

namespace SqlBinding.Record

mutual

/-- Writes a value at a path below a field. -/
def FieldType.write : (t : FieldType) → t.Val → Path → ColumnValue →
    t.Val × Except ScanError Unit
  | .leaf s _, old, path, v =>
    match path with
    | [] =>
      match s.ofColumn v with
      | .ok new => (new, .ok ())
      | .error e => (old, .error e)
    | _ :: _ => (old, .error (.fieldPath path))
  | .optional inner _, old, path, v =>
    if v.isNull then
      match path, old with
      | _ :: _, some content =>
        let (content', outcome) := inner.write content path v
        (some content', outcome)
      | _, _ => (none, .ok ())
    else
      let (content', outcome) := inner.write (old.getD inner.default) path v
      (some content', outcome)
  | .boxed inner, old, path, v => inner.write old path v
  | .record fields, old, path, v =>
    match path with
    | [] => (old, .error (.fieldPath []))
    | index :: rest => fields.write index rest path old v

/-- Writes a value at `rest` below the field with the given index. An index without a field, or of a
skipped one, is reported with the whole path. -/
def Fields.write : (fs : Fields) → Nat → Path → Path → fs.Val → ColumnValue →
    fs.Val × Except ScanError Unit
  | .nil, _, _, path, old, _ => (old, .error (.fieldPath path))
  | .cons _ _ skipped type _, 0, rest, path, old, v =>
    if skipped then (old, .error (.fieldPath path))
    else
      let (content, outcome) := type.write old.1 rest v
      ((content, old.2), outcome)
  | .cons _ _ _ _ others, index + 1, rest, path, old, v =>
    let (contents, outcome) := others.write index rest path old.2 v
    ((old.1, contents), outcome)

end

/-- Writes a value at a path of a record. -/
def Fields.scanField (fs : Fields) (r : fs.Val) (path : Path) (v : ColumnValue) :
    fs.Val × Except ScanError Unit :=
  (FieldType.record fs).write r path v

end SqlBinding.Record
