import SqlBinding.Numeric.Integer
import SqlBinding.Time.Written

/-!
# The exchange form of a point in time

The text in which points in time travel inside array values: date, space, time, the shortest exact
fraction, the offset to the second (`Z` for UTC), and ` BC` behind years before 1. Reading is more
lenient than writing: numbers may have any number of digits, a missing offset stands for UTC, and
parts of the time and of the offset beyond seconds are ignored. The offset is added up in 32-bit
words, and a text whose offset leaves them ends the program rather than being refused.
-/

set_option autoImplicit false

namespace SqlBinding.Time

open Numeric

/-- Splits a text at the first character that satisfies `p`, which starts the second part. -/
def splitBefore (p : Char → Bool) (cs : List Char) : List Char × List Char :=
  (cs.takeWhile (!p ·), cs.dropWhile (!p ·))

/-- Splits a text around the first `sep`. -/
def splitOnce? (sep : Char) (cs : List Char) : Option (List Char × List Char) :=
  match splitBefore (· == sep) cs with
  | (before, _ :: after) => some (before, after)
  | (_, []) => none

/-- The parts of a text between the occurrences of `sep`, at least one. -/
def splitAll (sep : Char) : List Char → List (List Char)
  | [] => [[]]
  | c :: cs =>
    if c = sep then [] :: splitAll sep cs
    else match splitAll sep cs with
      | part :: parts => (c :: part) :: parts
      | [] => [[c]]

/-- The offset in exchange form: hours, minutes, and seconds unless they are zero. -/
def Offset.exchangeText (o : Offset) : List Char :=
  if o.seconds = 0 then ['Z']
  else
    let n := o.seconds.natAbs
    (if o.seconds < 0 then '-' else '+') ::
      Decimal.padded 2 (n / 3600) ++ ':' :: Decimal.padded 2 (n % 3600 / 60) ++
        (if n % 60 = 0 then [] else ':' :: Decimal.padded 2 (n % 60))

/-- The fraction of a second without zeros at its end, nothing for a whole second. -/
def exchangeFraction (nanos : Nat) : List Char :=
  if nanos = 0 then []
  else '.' :: ((Decimal.padded 9 nanos).reverse.dropWhile (· == '0')).reverse

/-- The exchange form of a point in time. A leap second is written as the second it follows. -/
def Timestamp.exchangeText (t : Timestamp) : List Char :=
  let d := t.wall.date
  let c := t.wall.time
  let year := if d.year ≤ 0 then 1 - d.year else d.year
  Decimal.padded 4 year.natAbs ++ '-' :: Decimal.padded 2 d.month ++ '-' :: Decimal.padded 2 d.day ++
    ' ' :: Decimal.padded 2 c.hour ++ ':' :: Decimal.padded 2 c.minute ++
    ':' :: Decimal.padded 2 c.second ++ exchangeFraction c.fraction ++ t.offset.exchangeText ++
    (if d.year ≤ 0 then [' ', 'B', 'C'] else [])

/-- Removes ` BC` from the end of a text; the flag tells whether it was there. -/
def stripEra (cs : List Char) : List Char × Bool :=
  if cs.drop (cs.length - 3) = [' ', 'B', 'C'] then (cs.take (cs.length - 3), true) else (cs, false)

/-- Reads year, month and day with hyphens, of which the third and later ones belong to the day. -/
def readExchangeDate (cs : List Char) : Option (I64 × I64 × I64) := do
  let (y, rest) ← splitOnce? '-' cs
  let (m, d) ← splitOnce? '-' rest
  let year ← (IntKind.i64.parse y).toOption
  let month ← (IntKind.i64.parse m).toOption
  let day ← (IntKind.i64.parse d).toOption
  return (year, month, day)

/-- The date of a year within its era, a month and a day. -/
def exchangeDate? (beforeChrist : Bool) (year month day : I64) : Option Date :=
  if month.val < 0 ∨ day.val < 0 then none
  else Date.ofYmd? (if beforeChrist then 1 - year.val else year.val) month.val.toNat day.val.toNat

/-- Reads one to nine digits of a fraction as nanoseconds. -/
def readNanos (cs : List Char) : Option Nat :=
  if cs.isEmpty || 9 < cs.length || !cs.all Char.isDigit then none
  else some (Decimal.value cs * tenTo (9 - cs.length))

/-- Reads hour, minute and second with colons, and an optional fraction as nanoseconds. -/
def readExchangeClock (cs : List Char) : Option (U32 × U32 × U32 × Nat) := do
  let (hms, fraction) := match splitOnce? '.' cs with
    | some (hms, fraction) => (hms, some fraction)
    | none => (cs, none)
  match splitAll ':' hms with
  | h :: m :: s :: _ =>
    let hour ← (IntKind.u32.parse h).toOption
    let minute ← (IntKind.u32.parse m).toOption
    let second ← (IntKind.u32.parse s).toOption
    let nanos ← match fraction with
      | some f => readNanos f
      | none => some 0
    return (hour, minute, second, nanos)
  | _ => none

/-- Why a text in exchange form is not read. -/
inductive ExchangeFault
  /-- The text is no point in time. -/
  | malformed
  /-- The offset cannot be added up in 32-bit words; the program stops there. -/
  | overflow
  deriving DecidableEq, Repr

/-- What was found in a text, which is malformed if nothing was. -/
def found {α : Type} : Option α → Except ExchangeFault α
  | some a => .ok a
  | none => .error .malformed

/-- Whether a number is one that a 32-bit word holds. -/
def InWord (n : Int) : Prop := -(twoTo 31 : Int) ≤ n ∧ n < twoTo 31

instance (n : Int) : Decidable (InWord n) := inferInstanceAs (Decidable (_ ∧ _))

/-- A number that must fit a 32-bit word. -/
def checkWord (n : Int) : Except ExchangeFault Int := if InWord n then .ok n else .error .overflow

/-- Adds up hours, minutes and seconds in 32-bit words, on top of what has been added so far. The
first product or sum that leaves a word ends it; parts beyond the seconds are ignored. -/
def sumOffset : Int → List Int → List (List Char) → Except ExchangeFault Int
  | total, scale :: scales, part :: parts => do
    let n ← found (IntKind.i32.parse part).toOption
    let product ← checkWord (n.val * scale)
    let total ← checkWord (total + product)
    sumOffset total scales parts
  | total, _, _ => .ok total

/-- Reads the parts of an offset behind its sign. -/
def readSignedOffset (negative : Bool) (cs : List Char) : Except ExchangeFault Offset := do
  let total ← sumOffset 0 [3600, 60, 1] (splitAll ':' cs)
  let seconds ← checkWord (if negative then -total else total)
  found (Offset.ofSeconds? seconds)

/-- Reads an offset: nothing or `Z` for UTC, or a sign and its parts with colons. -/
def readExchangeOffset : List Char → Except ExchangeFault Offset
  | [] | ['Z'] => .ok .utc
  | '+' :: rest => readSignedOffset false rest
  | '-' :: rest => readSignedOffset true rest
  | _ => .error .malformed

/-- Reads the exchange form of a point in time. The offset is added up before the other numbers are
held to their ranges. -/
def Timestamp.ofExchange (cs : List Char) : Except ExchangeFault Timestamp := do
  let (body, beforeChrist) := stripEra cs
  let (dateText, rest) ← found (splitOnce? ' ' body)
  let (year, month, day) ← found (readExchangeDate dateText)
  let (clockText, zoneText) := splitBefore (fun c => c == 'Z' || c == '+' || c == '-') rest
  let (hour, minute, second, nanos) ← found (readExchangeClock clockText)
  let offset ← readExchangeOffset zoneText
  let date ← found (exchangeDate? beforeChrist year month day)
  let time ← found (TimeOfDay.ofHms? hour.val.toNat minute.val.toNat second.val.toNat nanos)
  found (Timestamp.ofLocal? ⟨date, time⟩ offset)

end SqlBinding.Time
