import SqlBinding.SqlArray.Bytea

/-!
# Byte strings as a loop reads them

The reading of the older form in single steps, with a position in the text and the bytes read so
far. A byte of the text that does not exist is a `fault`.
-/

set_option autoImplicit false

namespace SqlBinding.SqlArray.Bytea.Scan

open Text

/-- What the loop holds. -/
structure State where
  position : Nat
  out : List UInt8
  deriving DecidableEq, Repr

/-- What the reading of a byte string results in. -/
abbrev Result := Except ByteaFault (List UInt8)

/-- One step of the loop: it goes on, ends, or asks for a byte that is out of range. -/
inductive Step
  | next (s : State)
  | stop (result : Result)
  | fault

/-- The byte that the three bytes behind a position spell in octal digits, if there are three. -/
def octalBehind? (src : List UInt8) (position : Nat) : Option UInt8 :=
  match src[position + 1]?, src[position + 2]?, src[position + 3]? with
  | some a, some b, some c => octalByte? a b c
  | _, _, _ => none

/-- One step of the loop, which goes on while the position is one of the text. -/
def step (src : List UInt8) (s : State) : Step :=
  if s.position < src.length then
    match src[s.position]? with
    | none => .fault
    | some b =>
      if b ≠ backslash then .next ⟨s.position + 1, s.out ++ [b]⟩
      else if src[s.position + 1]? = some backslash then
        .next ⟨s.position + 2, s.out ++ [backslash]⟩
      else match octalBehind? src s.position with
        | some x => .next ⟨s.position + 4, s.out ++ [x]⟩
        | none => .stop (.error (.badEscape s.position))
  else .stop (.ok s.out)

/-- What comes before the loop: the hexadecimal form has none. -/
def start (src : List UInt8) : Step :=
  if src.take 2 = [backslash, hexMark] then
    match Hex.decode (src.drop 2) with
    | .ok bytes => .stop (.ok bytes)
    | .error fault => .stop (.error (.hex fault))
  else .next ⟨0, []⟩

/-- Whether the loop comes to an end with a result, without a fault. -/
inductive Yields (src : List UInt8) : Step → Result → Prop
  | stop (result : Result) : Yields src (.stop result) result
  | next {s : State} {result : Result} :
    Yields src (step src s) result → Yields src (.next s) result

end SqlBinding.SqlArray.Bytea.Scan
