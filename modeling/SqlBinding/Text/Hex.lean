import SqlBinding.Text.Escaped

/-!
# Hexadecimal bytes

Two digits a byte, written in lowercase and read in either case.
-/

set_option autoImplicit false

namespace SqlBinding.Text.Hex

/-- The digit of a number below sixteen. -/
def digit (n : Nat) : Char := Nat.digitChar n

/-- The two digits of a byte. -/
def ofByte (b : UInt8) : List Char := [digit (b.toNat / 16), digit (b.toNat % 16)]

/-- The digits of a run of bytes. -/
def encode (bytes : List UInt8) : List Char := bytes.flatMap ofByte

/-- The value of a hexadecimal digit of either case, given as its ASCII code. -/
def value? (b : UInt8) : Option Nat :=
  let n := b.toNat
  if 48 ≤ n ∧ n ≤ 57 then some (n - 48)
  else if 97 ≤ n ∧ n ≤ 102 then some (n - 87)
  else if 65 ≤ n ∧ n ≤ 70 then some (n - 55)
  else none

/-- What can be wrong with hexadecimal text. -/
inductive Fault
  | oddLength
  | invalidCharacter (byte : UInt8) (position : Nat)
  deriving DecidableEq, Repr

/-- The wording of a fault; the offending byte is shown as the character of its number. -/
def Fault.message : Fault → List Char
  | oddLength => "Odd number of digits".toList
  | invalidCharacter byte position =>
    "Invalid character ".toList ++ quotedChar (Char.ofNat byte.toNat) ++
      " at position ".toList ++ Nat.toDigits 10 position

/-- Reads pairs of digits, the first of which stands at `position`. -/
def decodePairs : Nat → List UInt8 → Except Fault (List UInt8)
  | _, [] => .ok []
  | _, [_] => .error .oddLength
  | position, a :: b :: rest =>
    match value? a, value? b with
    | none, _ => .error (.invalidCharacter a position)
    | some _, none => .error (.invalidCharacter b (position + 1))
    | some x, some y => (decodePairs (position + 2) rest).map (UInt8.ofNat (16 * x + y) :: ·)

/-- Reads hexadecimal text, given as its ASCII codes; the length is looked at first. -/
def decode (digits : List UInt8) : Except Fault (List UInt8) :=
  if digits.length % 2 = 1 then .error .oddLength else decodePairs 0 digits

end SqlBinding.Text.Hex
