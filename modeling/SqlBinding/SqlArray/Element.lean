import SqlBinding.Numeric.Integer
import SqlBinding.Numeric.Binary.Rounding
import SqlBinding.Numeric.Binary.Shortest
import SqlBinding.Time.Exchange
import SqlBinding.SqlArray.Error

/-!
# Elements of arrays

An element type says how its values are written inside array text and read back, and which character
separates them. The absent element, written `NULL`, is a value of some element types only.
-/

set_option autoImplicit false

namespace SqlBinding.SqlArray

open Numeric Text

/-- Why an element is not read. -/
inductive ElementFault
  /-- There is no value, for the reason given. -/
  | unreadable (reason : String)
  /-- The program stops at an overflow. -/
  | overflow
  deriving DecidableEq, Repr

/-- The error of an array whose element at the index is not read. -/
def ElementFault.atIndex (index : Nat) : ElementFault → ArrayError
  | unreadable reason => .element index reason
  | overflow => .overflow

/-- How the elements of one type are written and read; an absent element is `none`. A reader answers
with the value or with the fault for which there is none. -/
structure ElementCodec (α : Type) where
  delimiter : Char
  toElement : α → Option (List Char)
  fromElement : Option (List Char) → Except ElementFault α

namespace ElementCodec

/-- A codec for values that are always present, separated by commas. -/
def required {α : Type} (write : α → List Char) (read : List Char → Except ElementFault α) :
    ElementCodec α where
  delimiter := ','
  toElement a := some (write a)
  fromElement
    | some text => read text
    | none => .error (.unreadable "unexpected NULL element")

/-- A reader that answers with the reason why there is no value, as one of elements. -/
def reading {α : Type} (read : List Char → Except String α) (text : List Char) :
    Except ElementFault α :=
  (read text).mapError .unreadable

/-- The codec of optional values, with the delimiter of the values themselves. -/
def optional {α : Type} (c : ElementCodec α) : ElementCodec (Option α) where
  delimiter := c.delimiter
  toElement a := a.bind c.toElement
  fromElement
    | none => .ok none
    | some text => (c.fromElement (some text)).map some

/-- Reads an integer element. -/
def readInteger (k : IntKind) (text : List Char) : Except String k.Val :=
  (k.parse text).mapError IntegerFault.message

/-- Reads a floating-point element. -/
def readFloat (F : FloatFormat) (text : List Char) : Except String (Binary F) :=
  (Binary.parse text).mapError FloatFault.message

/-- Reads the bytes of an element. -/
def readBytes (text : List Char) : Except String (List UInt8) :=
  (Bytea.read (Utf8.encode (String.ofList text))).mapError
    fun fault => (ArrayError.bytea fault).message

/-- Reads a point in time. -/
def readTimestamp (text : List Char) : Except ArrayError Time.Timestamp :=
  match Time.Timestamp.ofExchange text with
  | .ok t => .ok t
  | .error .malformed => .error (.timestamp (String.ofList text))
  | .error .overflow => .error .overflow

/-- The reason why a text is no truth value. -/
def notBoolean (text : List Char) : String :=
  "could not parse boolean " ++ String.ofList (quoted text)

/-- The one-letter text of a truth value. -/
def writeBool (b : Bool) : List Char := if b then ['t'] else ['f']

/-- Reads a truth value, spelled out or as one letter. -/
def readBool (text : List Char) : Except String Bool :=
  if text = ['t'] ∨ text = "true".toList then .ok true
  else if text = ['f'] ∨ text = "false".toList then .ok false
  else .error (notBoolean text)

/-- Integers. -/
def integer (k : IntKind) : ElementCodec k.Val :=
  required IntKind.Val.text (reading (readInteger k))

/-- Floating-point numbers, in shortest decimal form. -/
def float (F : FloatFormat) : ElementCodec (Binary F) :=
  required Binary.display (reading (readFloat F))

/-- Texts, which stand for themselves. -/
def text : ElementCodec String :=
  required String.toList fun t => .ok (String.ofList t)

/-- Truth values. -/
def bool : ElementCodec Bool := required writeBool (reading readBool)

/-- Byte strings. -/
def bytes : ElementCodec (List UInt8) := required Bytea.write (reading readBytes)

/-- Points in time, in exchange form. -/
def timestamp : ElementCodec Time.Timestamp :=
  required Time.Timestamp.exchangeText fun t => (readTimestamp t).mapError fun
    | .overflow => .overflow
    | e => .unreadable e.message

end ElementCodec

/-- A point of the plane with 32-bit coordinates. -/
structure Point where
  x : I32
  y : I32
  deriving DecidableEq, Repr

namespace Point

/-- A point as its coordinates in parentheses. -/
def text (p : Point) : List Char := '(' :: p.x.text ++ ',' :: p.y.text ++ [')']

/-- What stands between a leading and a trailing parenthesis. -/
def inParentheses? : List Char → Option (List Char)
  | '(' :: rest => if rest.getLast? = some ')' then some rest.dropLast else none
  | _ => none

/-- Reads a point; the first comma separates the coordinates. -/
def read (text : List Char) : Except String Point :=
  match (inParentheses? text).bind (Time.splitOnce? ',') with
  | none => .error "not a point"
  | some (x, y) =>
    match IntKind.i32.parse x, IntKind.i32.parse y with
    | .ok x, .ok y => .ok ⟨x, y⟩
    | .error _, _ => .error "bad x"
    | .ok _, .error _ => .error "bad y"

/-- Points, which hold commas themselves and are separated by semicolons. -/
def codec : ElementCodec Point :=
  { ElementCodec.required text (ElementCodec.reading read) with delimiter := ';' }

end Point

/-- The element types of arrays of any dimension. -/
inductive ElementType
  | integer (kind : IntKind)
  | float (format : FloatFormat)
  | text
  | bool
  | bytes
  | timestamp
  | point
  | optional (element : ElementType)
  deriving DecidableEq, Repr

namespace ElementType

/-- The values of an element type. -/
@[reducible] def Val : ElementType → Type
  | integer kind => kind.Val
  | float format => Binary format
  | text => String
  | bool => Bool
  | bytes => List UInt8
  | timestamp => Time.Timestamp
  | point => Point
  | optional element => Option element.Val

/-- The codec of an element type. -/
def codec : (e : ElementType) → ElementCodec e.Val
  | integer kind => .integer kind
  | float format => .float format
  | text => .text
  | bool => .bool
  | bytes => .bytes
  | timestamp => .timestamp
  | point => Point.codec
  | optional element => element.codec.optional

end ElementType

end SqlBinding.SqlArray
