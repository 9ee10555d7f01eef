import SqlBinding.Numeric.Binary

/-!
# Rounding to a binary format

`Binary.ofRatio` rounds a quotient of natural numbers to the nearest number of a format, a tie going
to the even significand; what is too great becomes infinite. `Binary.parse` reads decimal text with
it, so the result is the correctly rounded value whatever the length of the text; products and
quotients are exact before they are rounded.
-/

set_option autoImplicit false

namespace SqlBinding.Numeric

/-- The quotient rounded to the nearest whole number, a tie going to the even one. -/
def roundHalfEven (num den : Nat) : Nat :=
  let q := num / den
  let r := num % den
  if 2 * r < den ∨ (2 * r = den ∧ q % 2 = 0) then q else q + 1

namespace Binary

variable {F : FloatFormat}

/-- The scale at which the quotient has a full significand, but no finer than the finest scale of
the format. -/
def scaleOfRatio (F : FloatFormat) (num den : Nat) : Int :=
  let p : Int := (Nat.log2 num : Int) - Nat.log2 den
  let below : Bool :=
    if 0 ≤ p then num < den * twoTo p.toNat else num * twoTo (-p).toNat < den
  max F.minScale ((if below then p - 1 else p) - F.fractionBits)

/-- The number of the format nearest to the quotient. -/
def ofRatio (negative : Bool) (num den : Nat) : Binary F :=
  if num = 0 then ofMagnitude negative 0
  else
    let q := scaleOfRatio F num den
    let m :=
      if 0 ≤ q then roundHalfEven num (den * twoTo q.toNat)
      else roundHalfEven (num * twoTo (-q).toNat) den
    let word := (q - F.minScale).toNat * twoTo F.fractionBits + m
    if word < F.specialExponent * twoTo F.fractionBits then ofMagnitude negative word
    else infinity negative

/-- A decimal exponent at and above which every number of either format is infinite. -/
def overflowExponent : Int := 310

/-- A decimal exponent at and below which every number of either format is zero. -/
def underflowExponent : Int := -330

/-- The number of the format nearest to `digits · 10 ^ exponent`. -/
def ofDecimal (negative : Bool) (digits : Nat) (exponent : Int) : Binary F :=
  if digits = 0 then ofMagnitude negative 0
  else
    let top := ((Decimal.ofNat digits).length : Int) + exponent
    if overflowExponent < top then infinity negative
    else if top < underflowExponent then ofMagnitude negative 0
    else if 0 ≤ exponent then ofRatio negative (digits * tenTo exponent.toNat) 1
    else ofRatio negative digits (tenTo (-exponent).toNat)

/-- The number of the format nearest to an integer. -/
def ofInt (n : Int) : Binary F := ofDecimal (n < 0) n.natAbs 0

end Binary

/-- What can be wrong with the text of a floating-point number. -/
inductive FloatFault
  | empty
  | invalid
  deriving DecidableEq, Repr

/-- The wording of a fault. -/
def FloatFault.message : FloatFault → String
  | empty => "cannot parse float from empty string"
  | invalid => "invalid float literal"

/-- Splits off a leading sign; `true` stands for minus. -/
def splitSign : List Char → Bool × List Char
  | '+' :: rest => (false, rest)
  | '-' :: rest => (true, rest)
  | cs => (false, cs)

/-- Reads the exponent part of a decimal number, which may be absent. -/
def readExponent : List Char → Option Int
  | [] => some 0
  | c :: rest =>
    if c = 'e' ∨ c = 'E' then
      let (negative, digits) := splitSign rest
      if digits.isEmpty || !digits.all Char.isDigit then none
      else some (if negative then -(Decimal.value digits : Int) else Decimal.value digits)
    else none

/-- Reads an unsigned decimal number as a whole number and the power of ten that scales it: digits
with an optional point, at least one digit in all, and an optional exponent. -/
def readDecimal (cs : List Char) : Option (Nat × Int) :=
  let whole := cs.takeWhile Char.isDigit
  let afterWhole := cs.dropWhile Char.isDigit
  let afterPoint := match afterWhole with
    | '.' :: rest => rest
    | _ => []
  let places := afterPoint.takeWhile Char.isDigit
  let tail := match afterWhole with
    | '.' :: _ => afterPoint.dropWhile Char.isDigit
    | rest => rest
  if whole.isEmpty && places.isEmpty then none
  else (readExponent tail).map fun e => (Decimal.value (whole ++ places), e - places.length)

/-- Reads a floating-point number: an optional sign, then `inf`, `infinity` or `nan` in any ASCII
case, or a decimal number. -/
def Binary.parse {F : FloatFormat} (cs : List Char) : Except FloatFault (Binary F) :=
  if cs.isEmpty then .error .empty
  else
    let (negative, rest) := splitSign cs
    let word := rest.map Char.toLower
    if word = ['i', 'n', 'f'] ∨ word = ['i', 'n', 'f', 'i', 'n', 'i', 't', 'y'] then
      .ok (.infinity negative)
    else if word = ['n', 'a', 'n'] then .ok .nan
    else match readDecimal rest with
      | some (digits, exponent) => .ok (.ofDecimal negative digits exponent)
      | none => .error .invalid

namespace Binary

variable {F : FloatFormat}

/-- The product of the magnitudes of two finite numbers. -/
def product (x y : Binary F) : Binary F :=
  let e := x.scale + y.scale
  .ofRatio false (x.significand * y.significand * twoTo e.toNat) (twoTo (-e).toNat)

/-- The quotient of the magnitudes of two finite numbers, the second of which is not zero. -/
def quotient (x y : Binary F) : Binary F :=
  let e := x.scale - y.scale
  .ofRatio false (x.significand * twoTo e.toNat) (y.significand * twoTo (-e).toNat)

/-- The number with the given sign and the magnitude of another. -/
def withSign (negative : Bool) (x : Binary F) : Binary F := { x with negative := negative }

end Binary

end SqlBinding.Numeric
