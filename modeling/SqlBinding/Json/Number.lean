import SqlBinding.Json.Document
import SqlBinding.Numeric.Binary.Rounding
import SqlBinding.Numeric.Integer

/-!
# The worth of a JSON number

A number without a point and without a power of ten is an integer if 64 bits hold it, signed or
unsigned. Any other is a double, found by one rounding of a 64-bit significand and another one of
its product with a power of ten. A number beyond all doubles has no worth.
-/

set_option autoImplicit false

namespace SqlBinding.Json

open Numeric

/-- What a number is worth; `unsigned` holds what is too great for `signed`. -/
inductive Number
  | signed (n : I64)
  | unsigned (n : U64)
  | double (x : Binary64)
  deriving DecidableEq, Repr

/-- The number of an integer that 64 bits hold. -/
def Number.ofInt? (n : Int) : Option Number :=
  match IntKind.i64.ofInt? n with
  | some s => some (.signed s)
  | none => (IntKind.u64.ofInt? n).map .unsigned

/-- Puts digits behind those of a significand as long as 64 bits hold it, and returns the others. -/
def accumulate : Nat → List Char → Nat × List Char
  | m, [] => (m, [])
  | m, c :: cs =>
    let next := 10 * m + (digit? c).getD 0
    if next < twoTo 64 then accumulate next cs else (m, c :: cs)

/-- The greatest power of ten that is a double. -/
def greatestPower : Nat := 308

/-- The double nearest to a power of ten. -/
def powerOfTen (e : Nat) : Binary64 := .ofDecimal false 1 e

/-- Divides a 64-bit significand by a power of ten, in steps of the greatest one. Two whole steps
leave nothing of it. -/
def scaleDown (x : Binary64) (e : Nat) : Binary64 :=
  if e ≤ greatestPower then x.quotient (powerOfTen e)
  else if e ≤ 2 * greatestPower then
    (x.quotient (powerOfTen greatestPower)).quotient (powerOfTen (e - greatestPower))
  else .zero

/-- The magnitude of a significand scaled by a power of ten, unless it is beyond all doubles. -/
def scaled? (significand : Nat) (exponent : Int) : Option Binary64 :=
  let x : Binary64 := .ofDecimal false significand 0
  if exponent < 0 then some (scaleDown x exponent.natAbs)
  else if x.isZero then some x
  else if exponent ≤ greatestPower then
    let y := x.product (powerOfTen exponent.toNat)
    if y.isInfinite then none else some y
  else none

namespace NumberText

/-- The double of a number. Digits that the significand has no room for count by their places only;
digits behind the point that it has no room for do not count. -/
def double? (n : NumberText) : Option Binary64 :=
  let (head, left) := accumulate 0 n.whole
  let fraction := n.fraction.getD []
  let (significand, unread) := accumulate head fraction
  let places : Int := (left.length : Int) - (fraction.length - unread.length : Nat)
  (scaled? significand (places + n.power.getD 0)).map (Binary.withSign n.negative)

/-- What a number is worth. The negative zero is a double. -/
def worth? (n : NumberText) : Option Number :=
  let integer := (Decimal.value n.whole : Int)
  if n.fraction.isNone ∧ n.power.isNone ∧ ¬(n.negative ∧ integer = 0) then
    match Number.ofInt? (if n.negative then -integer else integer) with
    | some worth => some worth
    | none => n.double?.map .double
  else n.double?.map .double

end NumberText

end SqlBinding.Json
