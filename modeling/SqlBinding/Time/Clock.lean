import SqlBinding.Time.Calendar

/-!
# Times of day, offsets and points in time

A time of day counts nanoseconds up to two seconds, the second of which is a leap second. A point in
time is a local date and time together with its offset from UTC; it is held only if its UTC date and
time lie in the calendar too.
-/

set_option autoImplicit false

namespace SqlBinding.Time

/-- Nanoseconds in a second. -/
def nanosPerSecond : Nat := 1000000000

/-- Seconds in a day. -/
def secondsPerDay : Nat := 86400

/-- A time of day; a leap second is held as `nanosPerSecond` and more nanoseconds. -/
structure TimeOfDay where
  hour : Nat
  minute : Nat
  second : Nat
  nano : Nat
  hour_lt : hour < 24
  minute_lt : minute < 60
  second_lt : second < 60
  nano_lt : nano < 2 * nanosPerSecond
  deriving DecidableEq, Repr

namespace TimeOfDay

/-- The time of day with the given fields; a leap second is one only behind second 59. -/
def ofHms? (hour minute second nano : Nat) : Option TimeOfDay :=
  if h : hour < 24 ∧ minute < 60 ∧ second < 60 ∧ nano < 2 * nanosPerSecond then
    if nano < nanosPerSecond ∨ second = 59 then
      some ⟨hour, minute, second, nano, h.1, h.2.1, h.2.2.1, h.2.2.2⟩
    else none
  else none

/-- Midnight. -/
def midnight : TimeOfDay :=
  ⟨0, 0, 0, 0, by decide, by decide, by decide, by decide⟩

/-- Seconds since midnight. -/
def secondOfDay (t : TimeOfDay) : Nat := 3600 * t.hour + 60 * t.minute + t.second

/-- The same nanoseconds at another second of the day, counted modulo the day. -/
def atSecondOfDay (t : TimeOfDay) (n : Nat) : TimeOfDay where
  hour := n / 3600 % 24
  minute := n / 60 % 60
  second := n % 60
  nano := t.nano
  hour_lt := by omega
  minute_lt := by omega
  second_lt := by omega
  nano_lt := t.nano_lt

end TimeOfDay

/-- A date and a time of day, without an offset. -/
structure LocalDateTime where
  date : Date
  time : TimeOfDay
  deriving DecidableEq, Repr

namespace LocalDateTime

/-- The date and time `n` seconds later, for an `n` of less than a day in magnitude; `none` outside
the calendar. -/
def shift? (t : LocalDateTime) (n : Int) : Option LocalDateTime :=
  let total : Int := t.time.secondOfDay + n
  let time := t.time.atSecondOfDay (total % secondsPerDay).toNat
  if total < 0 then t.date.previous?.map (⟨·, time⟩)
  else if total < secondsPerDay then some ⟨t.date, time⟩
  else t.date.next?.map (⟨·, time⟩)

end LocalDateTime

/-- Seconds east of UTC, less than a day in magnitude. -/
structure Offset where
  seconds : Int
  gt_min : -(secondsPerDay : Int) < seconds
  lt_max : seconds < secondsPerDay
  deriving DecidableEq, Repr

namespace Offset

/-- The offset of UTC itself. -/
def utc : Offset := ⟨0, by decide, by decide⟩

/-- The offset of a number of seconds, if it is less than a day. -/
def ofSeconds? (n : Int) : Option Offset :=
  if h : -(secondsPerDay : Int) < n ∧ n < secondsPerDay then some ⟨n, h.1, h.2⟩ else none

end Offset

/-- A point in time: local date and time with an offset, such that UTC's date is in the calendar. -/
structure Timestamp where
  wall : LocalDateTime
  offset : Offset
  utc_isSome : (wall.shift? (-offset.seconds)).isSome
  deriving DecidableEq, Repr

namespace Timestamp

/-- The point in time of a local date and time at an offset. -/
def ofLocal? (wall : LocalDateTime) (offset : Offset) : Option Timestamp :=
  if h : (wall.shift? (-offset.seconds)).isSome then some ⟨wall, offset, h⟩ else none

/-- Date and time in UTC. -/
def utc (t : Timestamp) : LocalDateTime := (t.wall.shift? (-t.offset.seconds)).get t.utc_isSome

/-- A second of the day stays where a shift by nothing leaves it. -/
theorem shift?_zero_isSome (t : LocalDateTime) : (t.shift? (-Offset.utc.seconds)).isSome := by
  have h1 := t.time.hour_lt
  have h2 := t.time.minute_lt
  have h3 := t.time.second_lt
  have h : ¬ ((t.time.secondOfDay : Int) + -Offset.utc.seconds < 0) ∧
      (t.time.secondOfDay : Int) + -Offset.utc.seconds < secondsPerDay := by
    simp only [TimeOfDay.secondOfDay, Offset.utc, secondsPerDay]
    omega
  simp [LocalDateTime.shift?, h.1, h.2]

/-- A date and time in UTC as a point in time. -/
def ofUtc (t : LocalDateTime) : Timestamp := ⟨t, .utc, shift?_zero_isSome t⟩

/-- Whether two points in time are the same instant, whatever their offsets. -/
def sameInstant (s t : Timestamp) : Bool := s.utc == t.utc

end Timestamp

end SqlBinding.Time
