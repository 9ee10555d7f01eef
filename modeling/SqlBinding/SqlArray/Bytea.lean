import SqlBinding.Text.Hex
import SqlBinding.Text.Utf8

/-!
# Bytes as text

Byte strings are written as `\x` and hexadecimal digits. They are read in that form and in an older
one, in which a backslash is doubled, any byte may be spelled by a backslash and three octal digits,
and every other byte stands for itself. The form is told by the first two bytes.
-/

set_option autoImplicit false

namespace SqlBinding.SqlArray

open Text

/-- What can be wrong with the text of a byte string. -/
inductive ByteaFault
  | hex (fault : Hex.Fault)
  | badEscape (offset : Nat)
  deriving DecidableEq, Repr

/-- The wording of a fault. -/
def ByteaFault.message : ByteaFault → List Char
  | hex fault => fault.message
  | badEscape offset => "invalid escape at offset ".toList ++ Nat.toDigits 10 offset

namespace Bytea

/-- The backslash. -/
def backslash : UInt8 := 92

/-- The letter behind the backslash that announces hexadecimal digits. -/
def hexMark : UInt8 := 120

/-- The value of an octal digit. -/
def octalDigit? (b : UInt8) : Option Nat :=
  if 48 ≤ b.toNat ∧ b.toNat ≤ 55 then some (b.toNat - 48) else none

/-- The byte that three octal digits spell, if it is one. -/
def octalByte? (a b c : UInt8) : Option UInt8 := do
  let x ← octalDigit? a
  let y ← octalDigit? b
  let z ← octalDigit? c
  let n := 64 * x + 8 * y + z
  if n < 256 then some (UInt8.ofNat n) else none

/-- Reads the older form from the given offset on. -/
def readEscaped : Nat → List UInt8 → Except ByteaFault (List UInt8)
  | _, [] => .ok []
  | offset, b :: rest =>
    if b = backslash then
      match rest with
      | [] => .error (.badEscape offset)
      | c :: after =>
        if c = backslash then (readEscaped (offset + 2) after).map (backslash :: ·)
        else match after with
          | d :: e :: more =>
            match octalByte? c d e with
            | some x => (readEscaped (offset + 4) more).map (x :: ·)
            | none => .error (.badEscape offset)
          | _ => .error (.badEscape offset)
    else (readEscaped (offset + 1) rest).map (b :: ·)

/-- Reads either form. -/
def read : List UInt8 → Except ByteaFault (List UInt8)
  | a :: b :: rest =>
    if a = backslash ∧ b = hexMark then
      match Hex.decode rest with
      | .ok bytes => .ok bytes
      | .error fault => .error (.hex fault)
    else readEscaped 0 (a :: b :: rest)
  | bytes => readEscaped 0 bytes

/-- Writes the hexadecimal form. -/
def write (bytes : List UInt8) : List Char := '\\' :: 'x' :: Hex.encode bytes

end Bytea

end SqlBinding.SqlArray
