import SqlBinding.SqlArray.Bytea

/-!
# Errors of array text

Why the text of an array cannot be read, or an array has no text.
-/

set_option autoImplicit false

namespace SqlBinding

open Text

/-- What is wrong with an array or its text. -/
inductive ArrayError
  /-- A character, or the end of the text, stands where the grammar does not allow it; the offset
  counts bytes. -/
  | unexpected (found : Option Char) (offset : Nat) (expected : String)
  /-- Sub-arrays of one depth differ in shape. -/
  | ragged
  /-- The array has more dimensions than its reader accepts. -/
  | dimensions (expected found : Nat)
  /-- An element is absent where the element type needs one. -/
  | nullElement (index : Nat)
  /-- An element cannot be read. -/
  | element (index : Nat) (reason : String)
  /-- The text of a byte string is malformed. -/
  | bytea (fault : SqlArray.ByteaFault)
  /-- The text of a point in time is malformed. -/
  | timestamp (text : String)
  /-- Reading a point in time left a 32-bit word, where the program stops. -/
  | overflow
  deriving DecidableEq, Repr

namespace ArrayError

/-- How a message shows a character that may be missing. -/
def shown : Option Char → String
  | none => "None"
  | some c => "Some(" ++ String.ofList (quotedChar c) ++ ")"

/-- The wording of an error. -/
def message : ArrayError → String
  | unexpected found offset expected =>
    "unexpected " ++ shown found ++ " at offset " ++ toString offset ++ ", expected " ++ expected
  | ragged => "multidimensional arrays must have sub-arrays with matching dimensions"
  | dimensions expected found =>
    "cannot convert array of " ++ toString found ++ " dimensions into a " ++ toString expected ++
      "-dimensional value"
  | nullElement index => "unexpected NULL element at index " ++ toString index
  | element index reason => "parsing array element index " ++ toString index ++ ": " ++ reason
  | bytea fault => "invalid bytea: " ++ String.ofList fault.message
  | timestamp text => "invalid timestamp " ++ String.ofList (quoted text.toList)
  | overflow => "arithmetic overflow"

end ArrayError

end SqlBinding
