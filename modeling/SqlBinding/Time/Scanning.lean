import SqlBinding.Text.Basic
import SqlBinding.Time.Exchange

/-!
# Reading a point in time from a column's text

Drivers deliver times in several forms. After trimming, a text is tried as RFC 3339, as a date and
time in UTC with a space or a `T` between them, in exchange form, and as a bare date, in this order.
-/

set_option autoImplicit false

namespace SqlBinding.Time

open Numeric Text

/-- A reader of the beginning of a text, which returns what it read and the rest. -/
abbrev Reader := StateT (List Char) Option

namespace Reader

/-- Reads one character that satisfies `p`. -/
def char (p : Char → Bool) : Reader Char := fun
  | c :: rest => if p c then some (c, rest) else none
  | [] => none

/-- Reads exactly this character. -/
def literal (c : Char) : Reader Unit := do
  let _ ← char (· == c)

/-- Reads at least `least` and at most `most` digits. -/
def number (least most : Nat) : Reader Nat := fun cs =>
  let digits := (cs.take most).takeWhile Char.isDigit
  if digits.length < least then none else some (Decimal.value digits, cs.drop digits.length)

/-- Passes over blanks. -/
def blanks : Reader Unit := fun cs => some ((), trimStart cs)

/-- Reads an optional fraction: nothing, or a point and at least one digit, of which nine count. -/
def fraction : Reader Nat := fun
  | '.' :: rest =>
    let digits := rest.takeWhile Char.isDigit
    if digits.isEmpty then none
    else
      let kept := digits.take 9
      some (Decimal.value kept * tenTo (9 - kept.length), rest.drop digits.length)
  | cs => some (0, cs)

/-- Succeeds at the end of the text. -/
def finish : Reader Unit := fun
  | [] => some ((), [])
  | _ => none

/-- Reads one or two digits behind optional blanks. -/
def field : Reader Nat := do
  blanks
  number 1 2

/-- Reads a year behind optional blanks: up to four digits, or a sign and any number of digits. -/
def year : Reader Int := do
  blanks
  fun
    | '-' :: rest => (number 1 rest.length rest).map fun (n, tail) => (-(n : Int), tail)
    | '+' :: rest => (number 1 rest.length rest).map fun (n, tail) => ((n : Int), tail)
    | cs => (number 1 4 cs).map fun (n, tail) => ((n : Int), tail)

end Reader

/-- The time of day whose second may be 60, which stands for a leap second at any minute. -/
def clockWithLeap? (hour minute second nanos : Nat) : Option TimeOfDay :=
  if second = 60 then TimeOfDay.ofHms? hour minute 59 (nanosPerSecond + nanos)
  else TimeOfDay.ofHms? hour minute second nanos

/-- Reads an offset as `Z`, or as a sign and two digits each of hours and minutes. -/
def rfcOffset : Reader Offset := do
  let sign ← Reader.char fun c => c == 'Z' || c == 'z' || c == '+' || c == '-' || c == '\u2212'
  if sign = 'Z' ∨ sign = 'z' then return .utc
  let hours ← Reader.number 2 2
  Reader.literal ':'
  let minutes ← Reader.number 2 2
  if 60 ≤ minutes then failure
  let seconds : Int := 3600 * hours + 60 * minutes
  Offset.ofSeconds? (if sign = '+' then seconds else -seconds)

/-- Reads RFC 3339, in which every field has a fixed width. -/
def rfc3339Reader : Reader Timestamp := do
  let year ← Reader.number 4 4
  Reader.literal '-'
  let month ← Reader.number 2 2
  Reader.literal '-'
  let day ← Reader.number 2 2
  let _ ← Reader.char fun c => c == 'T' || c == 't' || c == ' '
  let hour ← Reader.number 2 2
  Reader.literal ':'
  let minute ← Reader.number 2 2
  Reader.literal ':'
  let second ← Reader.number 2 2
  let nanos ← Reader.fraction
  let offset ← rfcOffset
  Reader.finish
  let date ← Date.ofYmd? year month day
  let time ← clockWithLeap? hour minute second nanos
  Timestamp.ofLocal? ⟨date, time⟩ offset

/-- Reads a date with hyphens. -/
def dateReader : Reader Date := do
  let year ← Reader.year
  Reader.literal '-'
  let month ← Reader.field
  Reader.literal '-'
  let day ← Reader.field
  Date.ofYmd? year month day

/-- Reads a date and a time with `between` in the middle. -/
def dateTimeReader (between : Reader Unit) : Reader LocalDateTime := do
  let date ← dateReader
  between
  let hour ← Reader.field
  Reader.literal ':'
  let minute ← Reader.field
  Reader.literal ':'
  let second ← Reader.field
  let nanos ← Reader.fraction
  Reader.finish
  let time ← clockWithLeap? hour minute second nanos
  return ⟨date, time⟩

/-- Reads a bare date as its midnight. -/
def midnightReader : Reader LocalDateTime := do
  let date ← dateReader
  Reader.finish
  return ⟨date, .midnight⟩

/-- What a reader makes of a whole text. -/
def Reader.run? {α : Type} (r : Reader α) (cs : List Char) : Option α := (r cs).map (·.1)

/-- Reads a column's text as a point in time. Only the exchange form can stop the program, and the
bare date is not tried then. -/
def Timestamp.scan (text : List Char) : Except ExchangeFault Timestamp :=
  let cs := trim text
  let firstForms := rfc3339Reader.run? cs
    <|> ((dateTimeReader Reader.blanks).run? cs).map .ofUtc
    <|> ((dateTimeReader (Reader.literal 'T')).run? cs).map .ofUtc
  match firstForms with
  | some t => .ok t
  | none =>
    match ofExchange cs with
    | .error .malformed => found ((midnightReader.run? cs).map .ofUtc)
    | outcome => outcome

end SqlBinding.Time
