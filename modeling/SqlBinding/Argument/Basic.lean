import SqlBinding.SqlArray.Flat
import SqlBinding.SqlArray.Nested

/-!
# Statement arguments

The values that take the place of the placeholders of a statement.
-/

set_option autoImplicit false

namespace SqlBinding

open Numeric Time

/-- An array as an argument. One of any dimension comes with its text already made, since its
element type no longer matters. -/
inductive ArrayArgument
  | flat (element : SqlArray.FlatType) (items : List element.Val)
  | nested (text : Except ArrayError (List Char))

/-- The text of an array, or why it has none. -/
def ArrayArgument.text : ArrayArgument → Except ArrayError (List Char)
  | flat element items => .ok (element.encode items)
  | nested text => text

/-- A value that can take the place of a placeholder. -/
inductive Argument
  | null
  | bool (value : Bool)
  | int (value : I64)
  | uint (value : U64)
  | float32 (value : Binary32)
  | float64 (value : Binary64)
  | text (value : String)
  | bytes (value : List UInt8)
  | timestamp (value : Timestamp)
  /-- A value with a validity flag. -/
  | nullable (inner : Argument) (valid : Bool)
  /-- The list of an `IN` clause. -/
  | list (items : List Argument)
  | array (value : ArrayArgument)

namespace Argument

/-- The kinds of arguments. -/
inductive Kind
  | null
  | bool
  | int
  | uint
  | float32
  | float64
  | text
  | bytes
  | timestamp
  | nullable
  | list
  | array
  deriving DecidableEq, Repr

/-- The name by which messages call a kind. -/
def Kind.name : Kind → String
  | null => "null"
  | bool => "bool"
  | int => "int"
  | uint => "uint"
  | float32 => "float32"
  | float64 => "float64"
  | text => "text"
  | bytes => "bytes"
  | timestamp => "timestamp"
  | nullable => "nullable"
  | list => "list"
  | array => "array"

/-- The kind of an argument. -/
def kind : Argument → Kind
  | null => .null
  | bool _ => .bool
  | int _ => .int
  | uint _ => .uint
  | float32 _ => .float32
  | float64 _ => .float64
  | text _ => .text
  | bytes _ => .bytes
  | timestamp _ => .timestamp
  | nullable _ _ => .nullable
  | list _ => .list
  | array _ => .array

/-- The instant that counts as the zero among points in time: the beginning of the year 1. -/
def zeroTime : Timestamp := .ofUtc ⟨⟨1, 1, 1, by decide⟩, .midnight⟩

/-- Whether an argument is the zero of its kind. -/
def isZero : Argument → Bool
  | null => true
  | bool b => !b
  | int n => n.val == 0
  | uint n => n.val == 0
  | float32 x => x.isZero
  | float64 x => x.isZero
  | text s => s.isEmpty
  | bytes b => b.isEmpty
  | timestamp t => t.sameInstant zeroTime
  | nullable inner valid => !valid && inner.isZero
  | list items => items.isEmpty
  | array _ => false

end Argument

end SqlBinding
