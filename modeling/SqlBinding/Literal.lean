import SqlBinding.Error
import SqlBinding.Time.Written

/-!
# Literals of arguments

How an argument is written inside a statement of a dialect. A list becomes one parenthesised level
of literals of a single kind, beside which only NULL may stand.
-/

set_option autoImplicit false

namespace SqlBinding

open Numeric

namespace Argument

/-- `NULL`. -/
def nullLiteral : List Char := ['N', 'U', 'L', 'L']

/-- The literal of a floating-point number, which only a finite one has. -/
def floatLiteral {F : FloatFormat} (x : Binary F) : Except Error (List Char) :=
  if x.isFinite then .ok x.display else .error (.argumentType (.nonFinite x.display))

/-- Whether a value with a validity flag is written out. -/
def isPresent (policy : NullablePolicy) (inner : Argument) (valid : Bool) : Bool :=
  match policy with
  | .strict => valid
  | .validOrNonZero => valid || (inner.kind != .bool && !inner.isZero)

/-- The kind that the elements of a list have so far, after the next element; an error if that one
has no place in the list. -/
def listKind (sofar : Option Kind) (item : Argument) : Except Error (Option Kind) :=
  match item.kind with
  | .null => .ok sofar
  | .list => .error (.argumentType (.insideList .list))
  | .array => .error (.argumentType (.insideList .array))
  | kind =>
    match sofar with
    | none => .ok (some kind)
    | some first =>
      if first = kind then .ok sofar else .error (.argumentType (.mixedList first kind))

/-- Entries in parentheses with commas between them. -/
def parenthesized (entries : List (List Char)) : List Char :=
  '(' :: List.intercalate [','] entries ++ [')']

mutual

/-- The literal of an argument. -/
def literal (d : Dialect) : Argument → Except Error (List Char)
  | null => .ok nullLiteral
  | bool b => .ok (d.boolLiteral b)
  | int n => .ok n.text
  | uint n => .ok n.text
  | float32 x => floatLiteral x
  | float64 x => floatLiteral x
  | text s => .ok (d.quote s.toList)
  | bytes b => .ok (d.bytesLiteral b)
  | timestamp t => .ok (d.quote t.wall.literalText)
  | nullable inner valid =>
    if isPresent d.nullablePolicy inner valid then inner.literal d else .ok nullLiteral
  | list [] => .error .emptyArrayArgument
  | list (item :: items) => (literals d none (item :: items)).map parenthesized
  | array a =>
    match a.text with
    | .ok t => .ok (d.quote t)
    | .error e => .error (.array e)

/-- The literals of the elements of a list; each element is first held to the kind of those before
it, and the first error decides. -/
def literals (d : Dialect) : Option Kind → List Argument → Except Error (List (List Char))
  | _, [] => .ok []
  | sofar, item :: items =>
    match listKind sofar item with
    | .error e => .error e
    | .ok kind =>
      match item.literal d with
      | .error e => .error e
      | .ok entry => (literals d kind items).map (entry :: ·)

end

end Argument

end SqlBinding
