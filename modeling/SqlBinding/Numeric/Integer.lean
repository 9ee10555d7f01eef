import SqlBinding.Numeric.Basic

/-!
# Bounded integers

The ten integer types that arguments are built from and columns are scanned into, each a range of
integers, and the reading of decimal text into such a range. Digits are read from left to right and
the first fault decides, so a text that is both too long and malformed is reported for whichever
comes first.
-/

set_option autoImplicit false

namespace SqlBinding.Numeric

/-- The integer types: signed and unsigned of 8 to 64 bits, and the two of machine size. -/
inductive IntKind
  | i8 | i16 | i32 | i64 | isize | u8 | u16 | u32 | u64 | usize
  deriving DecidableEq, Repr

namespace IntKind

/-- The name by which messages call the type. -/
def name : IntKind → String
  | i8 => "i8"
  | i16 => "i16"
  | i32 => "i32"
  | i64 => "i64"
  | isize => "isize"
  | u8 => "u8"
  | u16 => "u16"
  | u32 => "u32"
  | u64 => "u64"
  | usize => "usize"

/-- Width in bits; the machine-sized types have 64. -/
def width : IntKind → Nat
  | i8 | u8 => 8
  | i16 | u16 => 16
  | i32 | u32 => 32
  | i64 | isize | u64 | usize => 64

/-- Whether the type holds negative numbers. -/
def signed : IntKind → Bool
  | i8 | i16 | i32 | i64 | isize => true
  | u8 | u16 | u32 | u64 | usize => false

/-- The greatest number of the type. -/
def maxNat (k : IntKind) : Nat :=
  if k.signed then twoTo (k.width - 1) - 1 else twoTo k.width - 1

/-- The magnitude of the least number of the type, zero for an unsigned one. -/
def minMagnitude (k : IntKind) : Nat :=
  if k.signed then twoTo (k.width - 1) else 0

/-- A number of the type. -/
structure Val (k : IntKind) where
  val : Int
  ge_min : -(k.minMagnitude : Int) ≤ val
  le_max : val ≤ (k.maxNat : Int)
  deriving DecidableEq, Repr

/-- The number as a member of the type, when it lies in range. -/
def ofInt? (k : IntKind) (n : Int) : Option k.Val :=
  if h : -(k.minMagnitude : Int) ≤ n ∧ n ≤ (k.maxNat : Int) then some ⟨n, h.1, h.2⟩ else none

/-- Zero, which every type holds. -/
def zero (k : IntKind) : k.Val := ⟨0, by omega, by omega⟩

end IntKind

/-- The 64-bit signed integers. -/
abbrev I64 := IntKind.i64.Val

/-- Minus one. -/
def minusOne : I64 := ⟨-1, by decide, by decide⟩

/-- The 64-bit unsigned integers. -/
abbrev U64 := IntKind.u64.Val

/-- The 32-bit signed integers. -/
abbrev I32 := IntKind.i32.Val

/-- The 32-bit unsigned integers. -/
abbrev U32 := IntKind.u32.Val

/-- What can be wrong with the decimal text of an integer. -/
inductive IntegerFault
  | empty
  | invalidDigit
  | tooLarge
  | tooSmall
  deriving DecidableEq, Repr

/-- The wording of a fault. -/
def IntegerFault.message : IntegerFault → String
  | empty => "cannot parse integer from empty string"
  | invalidDigit => "invalid digit found in string"
  | tooLarge => "number too large to fit in target type"
  | tooSmall => "number too small to fit in target type"

/-- Reads digits after the magnitude `acc`, which must stay within `limit`; leaving it is reported
as `beyond`, and a character that is no digit takes precedence at its own place. -/
def readMagnitude (limit : Nat) (beyond : IntegerFault) :
    (acc : Nat) → acc ≤ limit → List Char → Except IntegerFault { n : Nat // n ≤ limit }
  | acc, h, [] => .ok ⟨acc, h⟩
  | acc, _, c :: rest =>
    match digit? c with
    | none => .error .invalidDigit
    | some d =>
      if h : 10 * acc + d ≤ limit then readMagnitude limit beyond (10 * acc + d) h rest
      else .error beyond

namespace IntKind

/-- Reads digits without a sign as a number of the type. -/
def parsePositive (k : IntKind) (cs : List Char) : Except IntegerFault k.Val :=
  (readMagnitude k.maxNat .tooLarge 0 (Nat.zero_le _) cs).map
    fun n => ⟨n.val, by omega, by have := n.property; omega⟩

/-- Reads the digits behind a minus sign as a number of the type. -/
def parseNegative (k : IntKind) (cs : List Char) : Except IntegerFault k.Val :=
  (readMagnitude k.minMagnitude .tooSmall 0 (Nat.zero_le _) cs).map
    fun n => ⟨-(n.val : Int), by have := n.property; omega, by omega⟩

/-- Reads decimal text: an optional sign and at least one digit. An unsigned type knows no minus
sign, not even in front of zero. -/
def parse (k : IntKind) : List Char → Except IntegerFault k.Val
  | [] => .error .empty
  | ['+'] | ['-'] => .error .invalidDigit
  | '+' :: rest => k.parsePositive rest
  | '-' :: rest => if k.signed then k.parseNegative rest else .error .invalidDigit
  | cs => k.parsePositive cs

/-- The decimal text of a number. -/
def Val.text {k : IntKind} (n : k.Val) : List Char := Decimal.ofInt n.val

end IntKind

end SqlBinding.Numeric
