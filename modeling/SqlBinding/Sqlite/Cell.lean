import SqlBinding.Column.Value
import SqlBinding.Numeric.Binary.Shortest
import SqlBinding.Numeric.Binary.Rounding
import SqlBinding.Text.Basic

/-!
# Stored values

The values that a SQLite table stores, the affinity by which the declared type of a column converts
them, and the order in which they are compared: NULL, numbers by their worth, texts, bytes.
-/

set_option autoImplicit false

namespace SqlBinding.Sqlite

open Numeric

/-- A stored value. -/
inductive Cell
  | null
  | int (n : I64)
  | real (x : Binary64)
  | text (s : String)
  | blob (b : List UInt8)
  deriving DecidableEq, Repr

namespace Cell

/-- A stored value as a driver delivers it. -/
def toColumn : Cell → ColumnValue
  | null => .null
  | int n => .int n
  | real x => .float x
  | text s => .text s
  | blob b => .bytes b

/-- The classes in the order in which they sort. -/
def rank : Cell → Nat
  | null => 0
  | int _ | real _ => 1
  | text _ => 2
  | blob _ => 3

/-- The worth of a number, counted in units of the least double. -/
def weight : Cell → Int
  | int n => n.val * (twoTo 1074 : Int)
  | real x =>
    let magnitude : Int := (x.significand * twoTo (x.scale + 1074).toNat : Nat)
    if x.negative then -magnitude else magnitude
  | _ => 0

/-- Whether a value does not sort behind another. -/
def le (a b : Cell) : Bool :=
  match a, b with
  | text s, text t => s ≤ t
  | blob x, blob y => x ≤ y
  | _, _ => a.rank < b.rank || (a.rank == b.rank && a.weight ≤ b.weight)

/-- Whether two values are equal. NULL equals nothing. -/
def equal (a b : Cell) : Bool :=
  match a, b with
  | null, _ | _, null => false
  | text s, text t => s == t
  | blob x, blob y => x == y
  | _, _ => a.rank == b.rank && a.weight == b.weight

/-- A double as an integer, if it is one that 64 bits hold. -/
def ofWhole (x : Binary64) : Cell :=
  match x.wholeMagnitude? with
  | none => real x
  | some m =>
    match IntKind.i64.ofInt? (if x.negative then -(m : Int) else m) with
    | some n => int n
    | none => real x

/-- The number of an integer, an integer if 64 bits hold it. -/
def ofInt (n : Int) : Cell :=
  match IntKind.i64.ofInt? n with
  | some k => int k
  | none => real (.ofInt n)

/-- The number that an unsigned decimal text spells behind a sign. -/
def ofDigits? (negative : Bool) (cs : List Char) : Option Cell :=
  (readDecimal cs).map fun (digits, exponent) =>
    if cs.all Char.isDigit then ofInt (if negative then -(digits : Int) else digits)
    else real (.ofDecimal negative digits exponent)

/-- The blanks around the text of a number. -/
def isBlank (c : Char) : Bool := c == ' ' || ('\t' ≤ c && c ≤ '\r')

/-- The number that a text looks like. -/
def ofNumericText? (cs : List Char) : Option Cell :=
  let inner := ((cs.dropWhile isBlank).reverse.dropWhile isBlank).reverse
  let (negative, digits) := splitSign inner
  ofDigits? negative digits

/-- The text of a double, which always has a point. -/
def realText (x : Binary64) : List Char :=
  let shown := x.display
  if shown.all (fun c => c.isDigit || c == '-') then shown ++ ['.', '0'] else shown

end Cell

/-- The ways in which a column converts what it stores. -/
inductive Affinity
  | integer
  | text
  | blob
  | real
  | numeric
  deriving DecidableEq, Repr

namespace Affinity

/-- The affinity of a declared type. -/
def ofDeclared (declaredType : String) : Affinity :=
  let upper := declaredType.toList.map Char.toUpper
  let has (part : String) : Bool := Text.occurs part.toList upper
  if has "INT" then integer
  else if has "CHAR" || has "CLOB" || has "TEXT" then text
  else if has "BLOB" || upper.isEmpty then blob
  else if has "REAL" || has "FLOA" || has "DOUB" then real
  else numeric

/-- A number as a column of numbers stores it: an integer wherever it is one. -/
def whole : Cell → Cell
  | .real x => .ofWhole x
  | c => c

/-- A number as a column of doubles stores it. The sign of a zero is lost. -/
def floating : Cell → Cell
  | .int n => .real (.ofInt n.val)
  | .real x => .real (if x.isZero then .zero else x)
  | c => c

/-- What a column stores for a value. -/
def store (a : Affinity) (c : Cell) : Cell :=
  match a, c with
  | integer, .text s | numeric, .text s => ((Cell.ofNumericText? s.toList).map whole).getD c
  | integer, _ | numeric, _ => whole c
  | real, .text s => ((Cell.ofNumericText? s.toList).map floating).getD c
  | real, _ => floating c
  | text, .int n => .text (String.ofList n.text)
  | text, .real x => .text (String.ofList (Cell.realText x))
  | text, _ | blob, _ => c

/-- What a literal is compared as with the values of a column. -/
def compared (a : Affinity) (c : Cell) : Cell :=
  match a with
  | real => numeric.store c
  | _ => a.store c

end Affinity

end SqlBinding.Sqlite
