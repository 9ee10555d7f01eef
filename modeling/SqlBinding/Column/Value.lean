import SqlBinding.Json.Printer
import SqlBinding.Time.Written

/-!
# Column values

The values that a driver delivers for the columns of a row, what it tells about a column, and the
JSON values nearest to column values: bytes are a list of numbers, a point in time is its text.
-/

set_option autoImplicit false

namespace SqlBinding

open Numeric

/-- One column value of a result row. -/
inductive ColumnValue
  | null
  | bool (value : Bool)
  | int (value : I64)
  | float (value : Binary64)
  | text (value : String)
  | bytes (value : List UInt8)
  | timestamp (value : Time.Timestamp)
  deriving DecidableEq, Repr

namespace ColumnValue

/-- The kinds of column values. -/
inductive Kind
  | null
  | bool
  | integer
  | float
  | text
  | bytes
  | timestamp
  deriving DecidableEq, Repr

/-- The name by which messages call a kind. -/
def Kind.name : Kind → String
  | null => "NULL"
  | bool => "bool"
  | integer => "integer"
  | float => "float"
  | text => "text"
  | bytes => "bytes"
  | timestamp => "timestamp"

/-- The kind of a value. -/
def kind : ColumnValue → Kind
  | null => .null
  | bool _ => .bool
  | int _ => .integer
  | float _ => .float
  | text _ => .text
  | bytes _ => .bytes
  | timestamp _ => .timestamp

/-- Whether a value is NULL. -/
def isNull (v : ColumnValue) : Bool := v.kind == .null

end ColumnValue

/-- What a driver tells about a column; `nullable` is `none` where it cannot tell. -/
structure ColumnType where
  name : String
  databaseType : String
  nullable : Option Bool := none
  deriving DecidableEq, Repr

/-- A byte as a JSON number. -/
def byteNumber (b : UInt8) : Json.Value :=
  .number (.signed ⟨b.toNat, Int.le_trans (by decide) (Int.natCast_nonneg _),
    Int.le_trans (Int.ofNat_le.2 (Nat.le_of_lt b.toNat_lt)) (by decide)⟩)

/-- A column value as JSON. -/
def ColumnValue.toJson : ColumnValue → Json.Value
  | null => .null
  | bool b => .bool b
  | int n => .number (.signed n)
  | float x => .number (.double x)
  | text s => .text s
  | bytes b => .list (b.map byteNumber)
  | timestamp t => .text (String.ofList t.rfc3339Zulu)

/-- The column values of a row as a JSON object. -/
def rowObject (row : NameMap ColumnValue) : Json.Value :=
  .object (row.sorted.map fun (name, v) => (name, v.toJson))

end SqlBinding
