import SqlBinding.Numeric.Basic
import SqlBinding.Time.Clock

/-!
# Written forms of a point in time

The form inside an SQL literal, which shows the local time and drops the offset, and RFC 3339, which
shows both. In either a leap second is written as second 60, and years outside 0 to 9999 carry a
sign.
-/

set_option autoImplicit false

namespace SqlBinding.Time

open Numeric

/-- A year: four digits from 0 to 9999, otherwise a sign and at least four digits. -/
def yearText (year : Int) : List Char :=
  let digits := Decimal.padded 4 year.natAbs
  if year < 0 then '-' :: digits else if 9999 < year then '+' :: digits else digits

/-- Year, month and day with hyphens. -/
def Date.text (d : Date) : List Char :=
  yearText d.year ++ '-' :: Decimal.padded 2 d.month ++ '-' :: Decimal.padded 2 d.day

/-- Hour, minute and second with colons; a leap second is written as 60. -/
def TimeOfDay.text (t : TimeOfDay) : List Char :=
  Decimal.padded 2 t.hour ++ ':' :: Decimal.padded 2 t.minute ++
    ':' :: Decimal.padded 2 (t.second + t.nano / nanosPerSecond)

/-- Nanoseconds within the second. -/
def TimeOfDay.fraction (t : TimeOfDay) : Nat := t.nano % nanosPerSecond

/-- Local date and time with nine decimal places, as it stands inside an SQL literal. -/
def LocalDateTime.literalText (t : LocalDateTime) : List Char :=
  t.date.text ++ ' ' :: t.time.text ++ '.' :: Decimal.padded 9 t.time.fraction

/-- A fraction of a second in the fewest of 0, 3, 6 and 9 places that show it exactly. -/
def fractionText (nanos : Nat) : List Char :=
  if nanos = 0 then []
  else if nanos % 1000000 = 0 then '.' :: Decimal.padded 3 (nanos / 1000000)
  else if nanos % 1000 = 0 then '.' :: Decimal.padded 6 (nanos / 1000)
  else '.' :: Decimal.padded 9 nanos

/-- An offset in hours and minutes, its seconds rounded half away from zero. -/
def Offset.text (o : Offset) : List Char :=
  let minutes := (o.seconds.natAbs + 30) / 60
  (if o.seconds < 0 then '-' else '+') ::
    Decimal.padded 2 (minutes / 60) ++ ':' :: Decimal.padded 2 (minutes % 60)

/-- RFC 3339 with the offset of UTC written as `zero`. -/
def Timestamp.rfc3339With (zero : List Char) (t : Timestamp) : List Char :=
  t.wall.date.text ++ 'T' :: t.wall.time.text ++ fractionText t.wall.time.fraction ++
    (if t.offset.seconds = 0 then zero else t.offset.text)

/-- RFC 3339 with a numeric offset, also for UTC. -/
def Timestamp.rfc3339 (t : Timestamp) : List Char := t.rfc3339With Offset.utc.text

/-- RFC 3339 with `Z` for UTC. -/
def Timestamp.rfc3339Zulu (t : Timestamp) : List Char := t.rfc3339With ['Z']

end SqlBinding.Time
