import SqlBinding.Numeric.Binary

/-!
# Shortest decimal text of a binary number

`Binary.shortest` finds the fewest decimal digits that read back as the same number of the format,
and of those the nearest to it. For one, two, three, … digits the two decimals around the number on
that grid are tested, in whole-number arithmetic, against the interval of reals that round to it;
the first grid with a hit wins. Every number of the format has a hit within seventeen digits; the
exact decimal expansion stands behind the search for a total definition.

`Binary.display` writes the result in positional notation.
-/

set_option autoImplicit false

namespace SqlBinding.Numeric

/-- Which of two decimals is chosen when the number lies exactly between them. -/
inductive TieRule
  | up
  | even
  deriving DecidableEq, Repr

/-- A decimal: the natural number `digits` scaled by a power of ten. -/
structure ScaledDecimal where
  digits : Nat
  exponent : Int
  deriving DecidableEq, Repr

/-- The same decimal without zeros at the end of its digits. -/
def ScaledDecimal.stripped (d : ScaledDecimal) : ScaledDecimal :=
  if h : d.digits ≠ 0 ∧ d.digits % 10 = 0 then
    ScaledDecimal.stripped ⟨d.digits / 10, d.exponent + 1⟩
  else d
termination_by d.digits
decreasing_by omega

/-- The reals that round to one number: the number and the ends of its interval as numerators over
one denominator, and whether the ends belong to it. -/
structure RoundingInterval where
  low : Nat
  value : Nat
  high : Nat
  denominator : Nat
  closed : Bool

namespace RoundingInterval

/-- The numerators multiplied, and the denominator multiplied, so that the interval is measured in
steps of `10 ^ e`. -/
def inSteps (i : RoundingInterval) (e : Int) : RoundingInterval :=
  let p := tenTo (-e).toNat
  { i with
    low := i.low * p
    value := i.value * p
    high := i.high * p
    denominator := i.denominator * tenTo e.toNat }

/-- Whether the interval holds the whole number `n`. -/
def holds (i : RoundingInterval) (n : Nat) : Bool :=
  let x := n * i.denominator
  if i.closed then i.low ≤ x && x ≤ i.high else i.low < x && x < i.high

/-- The whole number of the interval nearest to its value, if it holds one. -/
def nearestWhole? (i : RoundingInterval) (tie : TieRule) : Option Nat :=
  let below := i.value / i.denominator
  let rest := i.value % i.denominator
  let upward :=
    i.denominator < 2 * rest ||
      (2 * rest == i.denominator && (tie == .up || below % 2 == 1))
  match i.holds below && below != 0, i.holds (below + 1) with
  | true, true => some (if upward then below + 1 else below)
  | true, false => some below
  | false, true => some (below + 1)
  | false, false => none

/-- The exponent of the first decimal digit of the value. -/
def leadingExponent (i : RoundingInterval) : Int :=
  let e : Int := (Decimal.ofNat i.value).length - (Decimal.ofNat i.denominator).length
  if i.denominator * tenTo e.toNat ≤ i.value * tenTo (-e).toNat then e else e - 1

/-- The first hit on the grids of steps `10 ^ e`, `10 ^ (e - 1)`, …, of which `count` are tried. -/
def search (i : RoundingInterval) (tie : TieRule) : Nat → Int → Option ScaledDecimal
  | 0, _ => none
  | count + 1, e =>
    match (i.inSteps e).nearestWhole? tie with
    | some n => some ⟨n, e⟩
    | none => i.search tie count (e - 1)

end RoundingInterval

namespace Binary

variable {F : FloatFormat}

/-- The interval of a finite number: halfway to its two neighbours, of which the lower one is half
as far away at a power of two. The ends round to the number when its significand is even. -/
def interval (x : Binary F) : RoundingInterval :=
  let s := x.significand
  let half := if x.fraction.val = 0 ∧ 1 < x.exponent.val then 1 else 2
  let q := x.scale - 2
  let p := twoTo q.toNat
  { low := (4 * s - half) * p
    value := 4 * s * p
    high := (4 * s + 2) * p
    denominator := twoTo (-q).toNat
    closed := s % 2 == 0 }

/-- The exact decimal expansion of the magnitude of a finite number. -/
def exactDecimal (x : Binary F) : ScaledDecimal :=
  ⟨x.significand * twoTo x.scale.toNat * Nat.pow 5 (-x.scale).toNat, min x.scale 0⟩

/-- The fewest digits that read back as the magnitude of a finite number other than zero, and of
those the nearest. -/
def shortest (tie : TieRule) (x : Binary F) : ScaledDecimal :=
  ((x.interval.search tie 17 x.interval.leadingExponent).getD x.exactDecimal).stripped

/-- A decimal in positional notation: no exponent, no point after a whole number. -/
def positional (d : ScaledDecimal) : List Char :=
  let ds := Decimal.ofNat d.digits
  let places := (-d.exponent).toNat
  if places = 0 then ds ++ List.replicate d.exponent.toNat '0'
  else
    let padded := List.replicate (places + 1 - ds.length) '0' ++ ds
    padded.take (padded.length - places) ++ '.' :: padded.drop (padded.length - places)

/-- The text of a number: the shortest decimal in positional notation, behind a minus sign for a
negative number or zero; `NaN` and `inf` for the others. -/
def display (x : Binary F) : List Char :=
  if x.isNaN then ['N', 'a', 'N']
  else
    let body :=
      if x.isInfinite then ['i', 'n', 'f']
      else if x.isZero then ['0']
      else positional (x.shortest .up)
    if x.negative then '-' :: body else body

end Binary

end SqlBinding.Numeric
