import SqlBinding.Error
import SqlBinding.Scalar
import SqlBinding.Text.Utf8
import SqlBinding.Time.Scanning

/-!
# Scanning a column value into a scalar

Every scalar type says which kinds of column values it takes and how it converts them. Numbers are
converted exactly or not at all, except that a float is rounded to the nearest single; text is
trimmed and parsed; NULL is taken by optional types only.
-/

set_option autoImplicit false

namespace SqlBinding

open Numeric Text

namespace Numeric

/-- The greatest single, as a double. -/
def greatestSingle : Binary64 :=
  let x := Binary.greatest .single
  .ofRatio false (x.significand * twoTo x.scale.toNat) 1

/-- Every integer type holds one and zero. -/
theorem IntKind.holds_bool (k : IntKind) (b : Bool) :
    -(k.minMagnitude : Int) ≤ (if b then 1 else 0) ∧ (if b then 1 else 0) ≤ (k.maxNat : Int) := by
  cases k <;> cases b <;> decide

/-- One or zero. -/
def IntKind.ofBool (k : IntKind) (b : Bool) : k.Val :=
  ⟨if b then 1 else 0, (k.holds_bool b).1, (k.holds_bool b).2⟩

end Numeric

namespace ColumnValue

/-- The error of a value that has no conversion to the target. -/
def refused (v : ColumnValue) (target : String) : ScanError :=
  match v with
  | null => .unexpectedNull target
  | _ => .unsupported v.kind target

/-- The text of a textual value. -/
def textOf (v : ColumnValue) (target : String) : Except ScanError String :=
  match v with
  | text s => .ok s
  | bytes b =>
    match Utf8.decode? b with
    | some s => .ok s
    | none => .error (.parse (Utf8.readable b) target)
  | _ => .error (v.refused target)

/-- Parses the text of a textual value, without blanks at its ends. -/
def parsed {α : Type} (v : ColumnValue) (target : String) (parse : List Char → Option α) :
    Except ScanError α :=
  match v.textOf target with
  | .error e => .error e
  | .ok s =>
    match parse (trim s.toList) with
    | some a => .ok a
    | none => .error (.parse s target)

/-- Scans an integer: from an integer or an integral float in range, from a truth value, or from
text. -/
def toInteger (v : ColumnValue) (k : IntKind) : Except ScanError k.Val :=
  match v with
  | int n =>
    match k.ofInt? n.val with
    | some m => .ok m
    | none => .error (.outOfRange n.text k.name)
  | float x =>
    match x.wholeText? with
    | none => .error (v.refused k.name)
    | some digits =>
      match k.parse digits with
      | .ok m => .ok m
      | .error _ => .error (.outOfRange x.display k.name)
  | bool b => .ok (k.ofBool b)
  | text _ | bytes _ => v.parsed k.name fun cs => (k.parse cs).toOption
  | null | timestamp _ => .error (v.refused k.name)

/-- Scans a double: from a float, from an integer, or from text. -/
def toDouble (v : ColumnValue) : Except ScanError Binary64 :=
  match v with
  | float x => .ok x
  | int n => .ok (.ofInt n.val)
  | text _ | bytes _ => v.parsed "f64" fun cs => (Binary.parse cs).toOption
  | null | bool _ | timestamp _ => .error (v.refused "f64")

/-- Scans a single: from a float, whose shortest decimal is rounded unless it lies beyond the
greatest single, from an integer, or from text. -/
def toSingle (v : ColumnValue) : Except ScanError Binary32 :=
  match v with
  | float x =>
    if x.isFinite && greatestSingle.magnitude < x.magnitude then
      .error (.outOfRange x.display "f32")
    else
      match Binary.parse x.display with
      | .ok y => .ok y
      | .error _ => .error (.parse (String.ofList x.display) "f32")
  | int n => .ok (.ofInt n.val)
  | text _ | bytes _ => v.parsed "f32" fun cs => (Binary.parse cs).toOption
  | null | bool _ | timestamp _ => .error (v.refused "f32")

/-- The spellings of truth values. -/
def boolOfText? (cs : List Char) : Option Bool :=
  match String.ofList cs with
  | "1" | "t" | "T" | "TRUE" | "true" | "True" => some true
  | "0" | "f" | "F" | "FALSE" | "false" | "False" => some false
  | _ => none

/-- Scans a truth value: from one, from the integers 0 and 1, or from text. -/
def toBool (v : ColumnValue) : Except ScanError Bool :=
  match v with
  | bool b => .ok b
  | int n =>
    if n.val = 0 then .ok false
    else if n.val = 1 then .ok true
    else .error (.outOfRange n.text "bool")
  | text _ | bytes _ => v.parsed "bool" boolOfText?
  | null | float _ | timestamp _ => .error (v.refused "bool")

/-- Scans a text, which every value but NULL has. -/
def toText (v : ColumnValue) : Except ScanError String :=
  match v with
  | text s => .ok s
  | bytes _ => v.textOf "String"
  | int n => .ok (String.ofList n.text)
  | float x => .ok (String.ofList x.display)
  | bool b => .ok (if b then "true" else "false")
  | timestamp t => .ok (String.ofList t.rfc3339)
  | null => .error (v.refused "String")

/-- Scans bytes: from bytes, or those of a text or of the text of a number. -/
def toBytes (v : ColumnValue) : Except ScanError (List UInt8) :=
  match v with
  | bytes b => .ok b
  | text s => .ok (Utf8.encode s)
  | int n => .ok (Utf8.encode (String.ofList n.text))
  | float x => .ok (Utf8.encode (String.ofList x.display))
  | null | bool _ | timestamp _ => .error (v.refused "Vec<u8>")

/-- Parses the text of a textual value as a point in time. -/
def parsedTime (v : ColumnValue) : Except ScanError Time.Timestamp :=
  match v.textOf "timestamp" with
  | .error e => .error e
  | .ok s =>
    match Time.Timestamp.scan s.toList with
    | .ok t => .ok t
    | .error .malformed => .error (.parse s "timestamp")
    | .error .overflow => .error (.array .overflow)

/-- Scans a point in time: from one, or from text. -/
def toTimestamp (v : ColumnValue) : Except ScanError Time.Timestamp :=
  match v with
  | timestamp t => .ok t
  | text _ | bytes _ => v.parsedTime
  | null | bool _ | int _ | float _ => .error (v.refused "timestamp")

end ColumnValue

/-- The name by which messages call a one-dimensional array type. -/
def SqlArray.FlatType.targetName : SqlArray.FlatType → String
  | bool => "BoolArray"
  | int32 => "Int32Array"
  | int64 => "Int64Array"
  | float32 => "Float32Array"
  | float64 => "Float64Array"
  | text => "StringArray"
  | bytea => "ByteaArray"

/-- Scans an array from its text, which is read as it is. -/
def ColumnValue.toArray {α : Type} (v : ColumnValue) (target : String)
    (decode : List Char → Except ArrayError α) : Except ScanError α :=
  match v.textOf target with
  | .error e => .error e
  | .ok s =>
    match decode s.toList with
    | .ok a => .ok a
    | .error e => .error (.array e)

/-- Scans a column value into a scalar type. -/
def Scalar.ofColumn : (s : Scalar) → ColumnValue → Except ScanError s.Val
  | bool, v => v.toBool
  | int k, v => v.toInteger k
  | float .single, v => v.toSingle
  | float .double, v => v.toDouble
  | text, v => v.toText
  | bytes, v => v.toBytes
  | localDateTime, v | utcDateTime, v => v.toTimestamp.map fun t => t.utc
  | date, v => v.toTimestamp.map fun t => t.wall.date
  | timestamp, v => v.toTimestamp
  | raw, v => .ok v
  | flat element, v => v.toArray element.targetName element.decode
  | nested element, v => v.toArray "GenericArray" (SqlArray.Nested.decode element.codec)
  | optional s, v => if v.isNull then .ok none else (s.ofColumn v).map some
  | nullable s, v => if v.isNull then .ok (.absent s.default) else (s.ofColumn v).map .of

end SqlBinding
