import SqlBinding.Numeric.Basic

/-!
# Binary floating-point numbers

Numbers of the two IEEE 754 formats, held by their three fields: sign, biased exponent, fraction.
A finite number is `significand · 2 ^ scale`; all that is asked of it (is it zero, is it integral,
is it beyond the greatest single) is answered from the fields in whole-number arithmetic, without
rounding.
-/

set_option autoImplicit false

namespace SqlBinding.Numeric

/-- The single (32-bit) and the double (64-bit) format. -/
inductive FloatFormat
  | single
  | double
  deriving DecidableEq, Repr

namespace FloatFormat

/-- Width of the fraction field in bits. -/
def fractionBits : FloatFormat → Nat
  | single => 23
  | double => 52

/-- Width of the exponent field in bits. -/
def exponentBits : FloatFormat → Nat
  | single => 8
  | double => 11

/-- The exponent field of infinities and NaNs, one more than that of any finite number. -/
def specialExponent (F : FloatFormat) : Nat := twoTo F.exponentBits - 1

/-- The weight of the last place of the least numbers, as a power of two. -/
def minScale (F : FloatFormat) : Int := 2 - (twoTo (F.exponentBits - 1) : Int) - F.fractionBits

end FloatFormat

/-- A binary floating-point number, as its sign, biased exponent and fraction fields. -/
structure Binary (F : FloatFormat) where
  negative : Bool
  exponent : Fin (twoTo F.exponentBits)
  fraction : Fin (twoTo F.fractionBits)
  deriving DecidableEq, Repr

/-- Numbers of the single format. -/
abbrev Binary32 := Binary .single

/-- Numbers of the double format. -/
abbrev Binary64 := Binary .double

namespace Binary

variable {F : FloatFormat}

/-- The exponent and fraction fields as one number, which orders magnitudes. -/
def magnitude (x : Binary F) : Nat := x.exponent.val * twoTo F.fractionBits + x.fraction.val

/-- The number with the given sign whose exponent and fraction fields make up `m`, of which only
the places that the fields have room for count. -/
def ofMagnitude (negative : Bool) (m : Nat) : Binary F where
  negative := negative
  exponent := ⟨m / twoTo F.fractionBits % twoTo F.exponentBits, Nat.mod_lt _ (twoTo_pos _)⟩
  fraction := ⟨m % twoTo F.fractionBits, Nat.mod_lt _ (twoTo_pos _)⟩

/-- The number laid out as one word: sign, exponent, fraction. -/
def toBits (x : Binary F) : Nat :=
  (if x.negative then twoTo (F.exponentBits + F.fractionBits) else 0) + x.magnitude

/-- The number that a word lays out. -/
def ofBits (bits : Nat) : Binary F :=
  ofMagnitude (bits / twoTo (F.exponentBits + F.fractionBits) % 2 == 1) bits

/-- Whether the number is neither infinite nor a NaN. -/
def isFinite (x : Binary F) : Bool := x.exponent.val != F.specialExponent

/-- Whether the fields hold no number. -/
def isNaN (x : Binary F) : Bool := !x.isFinite && x.fraction.val != 0

/-- Whether the number is infinite, of either sign. -/
def isInfinite (x : Binary F) : Bool := !x.isFinite && x.fraction.val == 0

/-- Whether the number is one of the two zeros. -/
def isZero (x : Binary F) : Bool := x.magnitude == 0

/-- The positive zero. -/
def zero : Binary F := ofMagnitude false 0

/-- The infinity of the given sign. -/
def infinity (negative : Bool) : Binary F :=
  ofMagnitude negative (F.specialExponent * twoTo F.fractionBits)

/-- A NaN. -/
def nan : Binary F :=
  ofMagnitude false (F.specialExponent * twoTo F.fractionBits + twoTo (F.fractionBits - 1))

/-- The whole number that, scaled by `2 ^ scale`, is the magnitude of a finite number. -/
def significand (x : Binary F) : Nat :=
  if x.exponent.val = 0 then x.fraction.val else twoTo F.fractionBits + x.fraction.val

/-- The weight of the last place of a finite number, as a power of two. -/
def scale (x : Binary F) : Int := F.minScale + (x.exponent.val - 1 : Nat)

/-- The magnitude of a finite number, when it is a whole one. -/
def wholeMagnitude? (x : Binary F) : Option Nat :=
  if x.isFinite then
    if 0 ≤ x.scale then some (x.significand * twoTo x.scale.toNat)
    else if x.significand % twoTo (-x.scale).toNat = 0 then
      some (x.significand / twoTo (-x.scale).toNat)
    else none
  else none

/-- The decimal digits of a finite whole number, behind a minus sign when the sign field says so
(also in front of zero). -/
def wholeText? (x : Binary F) : Option (List Char) :=
  x.wholeMagnitude?.map fun n =>
    if x.negative then '-' :: Decimal.ofNat n else Decimal.ofNat n

/-- The greatest finite number of a format. -/
def greatest (F : FloatFormat) : Binary F :=
  ofMagnitude false (F.specialExponent * twoTo F.fractionBits - 1)

end Binary

end SqlBinding.Numeric
