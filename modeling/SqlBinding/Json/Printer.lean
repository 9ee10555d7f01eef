import SqlBinding.Json.Value
import SqlBinding.Numeric.Binary.Shortest

/-!
# Writing JSON

A value is written on one line, or laid out with an indent of two blanks for every level. A float
has the fewest digits that read back as the same number, a tie going to the even digit, with a point
in every text that has no power of ten; what is no number is `null`.
-/

set_option autoImplicit false

namespace SqlBinding.Json

open Numeric

/-- The number as two lowercase hexadecimal digits. -/
def hexPair (n : Nat) : List Char := [Nat.digitChar (n / 16), Nat.digitChar (n % 16)]

/-- How a character is written inside a string. -/
def escaped (c : Char) : List Char :=
  match c with
  | '"' => ['\\', '"']
  | '\\' => ['\\', '\\']
  | '\x08' => ['\\', 'b']
  | '\x0c' => ['\\', 'f']
  | '\n' => ['\\', 'n']
  | '\r' => ['\\', 'r']
  | '\t' => ['\\', 't']
  | c => if c.toNat < 32 then '\\' :: 'u' :: '0' :: '0' :: hexPair c.toNat else [c]

/-- A text as a string. -/
def stringText (s : String) : List Char := '"' :: s.toList.flatMap escaped ++ ['"']

/-- The exponents of the first digit at which a float has no power of ten. -/
def isPositional (e : Int) : Bool := -5 ≤ e && e ≤ 15

/-- A point in front of all digits but the first, if there are others. -/
def pointed : List Char → List Char
  | c :: d :: ds => c :: '.' :: d :: ds
  | ds => ds

/-- A decimal other than zero. -/
def decimalText (d : ScaledDecimal) : List Char :=
  let ds := Decimal.ofNat d.digits
  let e : Int := d.exponent + ds.length - 1
  if isPositional e then
    Binary.positional d ++ (if 0 ≤ d.exponent then ['.', '0'] else [])
  else
    pointed ds ++ (if e < 0 then ['e', '-'] else ['e', '+']) ++ Decimal.ofNat e.natAbs

/-- The text of a double. -/
def doubleText (x : Binary64) : List Char :=
  if x.isFinite then
    (if x.negative then ['-'] else []) ++
      (if x.isZero then ['0', '.', '0'] else decimalText (x.shortest .even))
  else "null".toList

/-- The text of a number. -/
def Number.text : Number → List Char
  | signed n => n.text
  | unsigned n => n.text
  | double x => doubleText x

namespace Value

mutual

/-- A value on one line. -/
def compact : Value → List Char
  | null => "null".toList
  | bool b => if b then "true".toList else "false".toList
  | number n => n.text
  | text s => stringText s
  | list items => '[' :: List.intercalate [','] (compactAll items) ++ [']']
  | object members => '\x7b' :: List.intercalate [','] (compactMembers members) ++ ['\x7d']

/-- The values of a list, each on one line. -/
def compactAll : List Value → List (List Char)
  | [] => []
  | v :: vs => v.compact :: compactAll vs

/-- The members of an object, each on one line. -/
def compactMembers : List (String × Value) → List (List Char)
  | [] => []
  | (name, v) :: rest => (stringText name ++ ':' :: v.compact) :: compactMembers rest

end

/-- A new line with the indent of a level. -/
def newLine (level : Nat) : List Char := '\n' :: List.replicate (2 * level) ' '

/-- Entries between brackets, each on a line of its own one level deeper. -/
def laidOut (opening closing : Char) (level : Nat) (entries : List (List Char)) : List Char :=
  if entries.isEmpty then [opening, closing]
  else
    opening :: newLine (level + 1) ++ List.intercalate (',' :: newLine (level + 1)) entries ++
      newLine level ++ [closing]

mutual

/-- A value laid out at a level. -/
def pretty (level : Nat) : Value → List Char
  | list items => laidOut '[' ']' level (prettyAll (level + 1) items)
  | object members => laidOut '\x7b' '\x7d' level (prettyMembers (level + 1) members)
  | null => "null".toList
  | bool b => if b then "true".toList else "false".toList
  | number n => n.text
  | text s => stringText s

/-- The values of a list laid out at a level. -/
def prettyAll (level : Nat) : List Value → List (List Char)
  | [] => []
  | v :: vs => v.pretty level :: prettyAll level vs

/-- The members of an object laid out at a level. -/
def prettyMembers (level : Nat) : List (String × Value) → List (List Char)
  | [] => []
  | (name, v) :: rest => (stringText name ++ ':' :: ' ' :: v.pretty level) :: prettyMembers level rest

end

end Value

end SqlBinding.Json
