import SqlBinding.Json.Number
import SqlBinding.NameMap

/-!
# JSON values

What a JSON document says: numbers by their worth, strings as texts, the members of an object by
their names, the last one of a name and in the order of names. A document has no value if a number
in it has no worth, a string in it is no text, or lists and objects are nested too deeply.
-/

set_option autoImplicit false

namespace SqlBinding.Json

open Numeric

/-- A JSON value. The members of an object are in the order of their names, which do not repeat. -/
inductive Value
  | null
  | bool (value : Bool)
  | number (n : Number)
  | text (value : String)
  | list (items : List Value)
  | object (members : List (String × Value))

/-- The character of a surrogate pair. -/
def pairChar (high low : Nat) : Char :=
  Char.ofNat (0x10000 + (high - 0xD800) * 0x400 + (low - 0xDC00))

/-- The text of a string, in which every surrogate must be half of a pair. -/
def textOf? : List Piece → Option (List Char)
  | [] => some []
  | .char c :: rest => (textOf? rest).map (c :: ·)
  | .unit high :: .unit low :: rest =>
    if 0xD800 ≤ high ∧ high < 0xDC00 then
      if 0xDC00 ≤ low ∧ low < 0xE000 then (textOf? rest).map (pairChar high low :: ·) else none
    else if 0xDC00 ≤ high ∧ high < 0xE000 then none
    else (textOf? (.unit low :: rest)).map (Char.ofNat high :: ·)
  | .unit code :: rest =>
    if 0xD800 ≤ code ∧ code < 0xE000 then none
    else (textOf? rest).map (Char.ofNat code :: ·)

/-- The members of an object in the order of their names, the last one of each name. -/
def byName (members : List (String × Value)) : List (String × Value) :=
  (members.foldl (fun (m : NameMap Value) (name, v) => m.insert name v) .empty).sorted

/-- How deeply lists and objects may be nested in a value. -/
def maxLevels : Nat := 127

mutual

/-- The value of a document with at most `levels` levels of lists and objects. -/
def evaluate (levels : Nat) : Document → Option Value
  | .null => some .null
  | .bool b => some (.bool b)
  | .number n => n.worth?.map .number
  | .string ps => (textOf? ps).map fun cs => .text (String.ofList cs)
  | .list items =>
    match levels with
    | 0 => none
    | levels + 1 => (evaluateAll levels items).map .list
  | .object members =>
    match levels with
    | 0 => none
    | levels + 1 => (evaluateMembers levels members).map fun ms => .object (byName ms)

/-- The values of all documents of a list. -/
def evaluateAll (levels : Nat) : List Document → Option (List Value)
  | [] => some []
  | d :: ds =>
    match evaluate levels d, evaluateAll levels ds with
    | some v, some vs => some (v :: vs)
    | _, _ => none

/-- The values of all members of a list. -/
def evaluateMembers (levels : Nat) :
    List (List Piece × Document) → Option (List (String × Value))
  | [] => some []
  | (name, d) :: rest =>
    match textOf? name, evaluate levels d, evaluateMembers levels rest with
    | some n, some v, some vs => some ((String.ofList n, v) :: vs)
    | _, _, _ => none

end

/-- The value of a document. -/
def Document.value? (d : Document) : Option Value := evaluate maxLevels d

/-- Reads a value. -/
def Value.parse (cs : List Char) : Option Value := (Json.parse cs).bind Document.value?

end SqlBinding.Json
