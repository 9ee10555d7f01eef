import SqlBinding.SqlArray.Element
import SqlBinding.SqlArray.Grammar

/-!
# One-dimensional arrays of a fixed element type

The seven array types whose elements are never absent. Texts and byte strings are written in quotes,
the others bare; infinities are spelled out.
-/

set_option autoImplicit false

namespace SqlBinding.SqlArray

open Numeric Text

/-- The element types of one-dimensional arrays. -/
inductive FlatType
  | bool
  | int32
  | int64
  | float32
  | float64
  | text
  | bytea
  deriving DecidableEq, Repr

namespace FlatType

/-- The values of an element type. -/
@[reducible] def Val : FlatType → Type
  | bool => Bool
  | int32 => I32
  | int64 => I64
  | float32 => Binary32
  | float64 => Binary64
  | text => String
  | bytea => List UInt8

/-- The text of a floating-point element, infinities spelled out. -/
def floatText {F : FloatFormat} (x : Binary F) : List Char :=
  if x.isInfinite then
    if x.negative then "-Infinity".toList else "Infinity".toList
  else x.display

/-- An element as it stands in array text. -/
def write : (t : FlatType) → t.Val → List Char
  | bool, b => ElementCodec.writeBool b
  | int32, n | int64, n => IntKind.Val.text n
  | float32, x | float64, x => floatText x
  | text, s => quoteElement s.toList
  | bytea, b => quoteElement (Bytea.write b)

/-- Reads the text of an element. Truth values are single letters here. -/
def read : (t : FlatType) → List Char → Except String t.Val
  | bool, cs =>
    if cs = ['t'] then .ok true
    else if cs = ['f'] then .ok false
    else .error (ElementCodec.notBoolean cs)
  | int32, cs => ElementCodec.readInteger .i32 cs
  | int64, cs => ElementCodec.readInteger .i64 cs
  | float32, cs => ElementCodec.readFloat .single cs
  | float64, cs => ElementCodec.readFloat .double cs
  | text, cs => .ok (String.ofList cs)
  | bytea, cs => ElementCodec.readBytes cs

/-- The text of an array. -/
def encode (t : FlatType) (items : List t.Val) : List Char := braced ',' (items.map t.write)

/-- Reads elements, the first of which has the given index. -/
def readElements (t : FlatType) : Nat → Elements → Except ArrayError (List t.Val)
  | _, [] => .ok []
  | index, none :: _ => .error (.nullElement index)
  | index, some cs :: rest =>
    match t.read cs with
    | .error reason => .error (.element index reason)
    | .ok value => (readElements t (index + 1) rest).map (value :: ·)

/-- Reads the text of an array of one dimension at most. -/
def decode (t : FlatType) (src : List Char) : Except ArrayError (List t.Val) :=
  match parse ',' src with
  | .error e => .error e
  | .ok (dims, elements) =>
    if 1 < dims.length then .error (.dimensions 1 dims.length) else t.readElements 0 elements

end FlatType

end SqlBinding.SqlArray
