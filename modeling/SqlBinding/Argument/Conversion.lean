import SqlBinding.Argument.Basic
import SqlBinding.Scalar

/-!
# Arguments made of scalars

Every scalar type has its argument: integers become signed or unsigned ones, times become points in
time, missing values become NULL, and lists of scalars become the lists of `IN` clauses.
-/

set_option autoImplicit false

namespace SqlBinding

open Numeric Time

namespace Numeric.IntKind

/-- Whether numbers of the type become unsigned arguments; the others fit the signed ones. -/
def isWideUnsigned (k : IntKind) : Bool := !k.signed && k.width == 64

/-- The ranges of the narrower types lie within that of the signed 64-bit integers. -/
theorem range_of_narrow {k : IntKind} (h : k.isWideUnsigned = false) :
    k.minMagnitude ≤ i64.minMagnitude ∧ k.maxNat ≤ i64.maxNat := by
  cases k <;> simp_all [isWideUnsigned, signed, width, minMagnitude, maxNat]

/-- The unsigned types of 64 bits have one range. -/
theorem range_of_wide {k : IntKind} (h : k.isWideUnsigned = true) :
    k.minMagnitude = u64.minMagnitude ∧ k.maxNat = u64.maxNat := by
  cases k <;> simp_all [isWideUnsigned, signed, width, minMagnitude, maxNat]

/-- The argument of an integer. -/
def Val.toArgument {k : IntKind} (n : k.Val) : Argument :=
  if h : k.isWideUnsigned then
    .uint ⟨n.val, by have := range_of_wide h; have := n.ge_min; omega,
      by have := range_of_wide h; have := n.le_max; omega⟩
  else
    have hr := range_of_narrow (Bool.eq_false_iff.2 h)
    .int ⟨n.val, by have := n.ge_min; omega, by have := n.le_max; omega⟩

end Numeric.IntKind

namespace ColumnValue

/-- A column value as an argument. -/
def toArgument : ColumnValue → Argument
  | null => .null
  | bool b => .bool b
  | int n => .int n
  | float x => .float64 x
  | text s => .text s
  | bytes b => .bytes b
  | timestamp t => .timestamp t

end ColumnValue

namespace Scalar

/-- The argument of a scalar. A value with a validity flag that is neither valid nor other than the
default of its type carries NULL. -/
def toArgument : (s : Scalar) → s.Val → Argument
  | bool, b => .bool b
  | int _, n => n.toArgument
  | float .single, x => .float32 x
  | float .double, x => .float64 x
  | text, s => .text s
  | bytes, b => .bytes b
  | localDateTime, t | utcDateTime, t => .timestamp (.ofUtc t)
  | date, d => .timestamp (.ofUtc ⟨d, .midnight⟩)
  | timestamp, t => .timestamp t
  | raw, v => v.toArgument
  | flat element, items => .array (.flat element items)
  | nested element, a => .array (.nested (a.encode element.codec))
  | optional _, none => .null
  | optional s, some v => s.toArgument v
  | nullable s, v =>
    .nullable (if !v.valid && s.isDefault v.value then .null else s.toArgument v.value) v.valid

/-- The list argument of several scalars of one type. -/
def listArgument (s : Scalar) (values : List s.Val) : Argument :=
  .list (values.map s.toArgument)

end Scalar

end SqlBinding
