import SqlBinding.SqlArray.Flat
import SqlBinding.SqlArray.Nested
import SqlBinding.Column.Value

/-!
# Scalar types

The types that one column can be scanned into and one argument can be made of. `Scalar.Val` is the
type of their values; every scalar type has a default value.
-/

set_option autoImplicit false

namespace SqlBinding

open Numeric Time

/-- A value with an explicit validity flag; an invalid value is kept all the same. -/
structure Nullable (α : Type) where
  value : α
  valid : Bool
  deriving DecidableEq, Repr

namespace Nullable

variable {α : Type}

/-- A valid value. -/
def of (value : α) : Nullable α := ⟨value, true⟩

/-- An invalid value, for which `default` is kept. -/
def absent (default : α) : Nullable α := ⟨default, false⟩

/-- A value that may be missing, `default` being kept for a missing one. -/
def ofOption (default : α) : Option α → Nullable α
  | some value => of value
  | none => absent default

/-- The value, when it is valid. -/
def toOption (n : Nullable α) : Option α := if n.valid then some n.value else none

end Nullable

/-- The scalar types. -/
inductive Scalar
  | bool
  | int (kind : IntKind)
  | float (format : FloatFormat)
  | text
  | bytes
  /-- A date and time in UTC that does not say so. -/
  | localDateTime
  | date
  | utcDateTime
  | timestamp
  /-- A column value as it is. -/
  | raw
  | flat (element : SqlArray.FlatType)
  | nested (element : SqlArray.ElementType)
  | optional (s : Scalar)
  | nullable (s : Scalar)
  deriving DecidableEq, Repr

/-- The first second of 1970. -/
def Time.epoch : LocalDateTime := ⟨⟨1970, 1, 1, by decide⟩, .midnight⟩

namespace Scalar

/-- The values of a scalar type. -/
@[reducible] def Val : Scalar → Type
  | bool => Bool
  | int kind => kind.Val
  | float format => Binary format
  | text => String
  | bytes => List UInt8
  | localDateTime => LocalDateTime
  | date => Date
  | utcDateTime => LocalDateTime
  | timestamp => Timestamp
  | raw => ColumnValue
  | flat element => List element.Val
  | nested element => SqlArray.Nested element.Val
  | optional s => Option s.Val
  | nullable s => Nullable s.Val

/-- The default value of a scalar type. -/
def default : (s : Scalar) → s.Val
  | bool => false
  | int kind => kind.zero
  | float _ => Binary.zero
  | text => ""
  | bytes => []
  | localDateTime => epoch
  | date => epoch.date
  | utcDateTime => epoch
  | timestamp => .ofUtc epoch
  | raw => .null
  | flat _ => []
  | nested _ => .empty
  | optional _ => none
  | nullable s => .absent s.default

/-- Whether a value equals the default of its type: numbers by their value, points in time by the
instant. -/
def isDefault : (s : Scalar) → s.Val → Bool
  | bool, b => !b
  | int _, n => n.val == 0
  | float _, x => x.isZero
  | text, s => s.isEmpty
  | bytes, b => b.isEmpty
  | localDateTime, t => t == epoch
  | date, d => d == epoch.date
  | utcDateTime, t => t == epoch
  | timestamp, t => t.sameInstant (.ofUtc epoch)
  | raw, v => v.isNull
  | flat _, a => a.isEmpty
  | nested _, a => a.items.isEmpty
  | optional _, v => v.isNone
  | nullable s, v => !v.valid && s.isDefault v.value

end Scalar

end SqlBinding
