/-!
# Places and digits

The weights of binary and of decimal places, and the decimal text of whole numbers: the digits of a
number, most significant first and without leading zeros, and the same digits filled up with zeros
on the left to a least width.
-/

set_option autoImplicit false

namespace SqlBinding.Numeric

/-- A power of two. -/
abbrev twoTo (n : Nat) : Nat := Nat.pow 2 n

/-- A power of ten. -/
abbrev tenTo (n : Nat) : Nat := Nat.pow 10 n

/-- A power of two is not zero. -/
theorem twoTo_pos (n : Nat) : 0 < twoTo n := Nat.two_pow_pos n

/-- The value of an ASCII decimal digit. -/
def digit? (c : Char) : Option Nat :=
  if c.isDigit then some (c.toNat - '0'.toNat) else none

namespace Decimal

/-- The decimal digits of a natural number, `0` for zero. -/
def ofNat (n : Nat) : List Char := Nat.toDigits 10 n

/-- The decimal text of an integer, with a minus sign in front of a negative one. -/
def ofInt (n : Int) : List Char :=
  if n < 0 then '-' :: ofNat n.natAbs else ofNat n.natAbs

/-- The decimal digits of a natural number, filled up with zeros to at least `width`. -/
def padded (width n : Nat) : List Char :=
  List.replicate (width - (ofNat n).length) '0' ++ ofNat n

/-- The number that a run of digits spells. -/
def value (cs : List Char) : Nat := Nat.ofDigitChars 10 cs 0

end Decimal

end SqlBinding.Numeric
