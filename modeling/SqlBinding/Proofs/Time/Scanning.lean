import SqlBinding.Proofs.Time.Exchange
import SqlBinding.Time.Scanning

/-!
# Written times under the scanner

A column's text is given to one reader after the other, and the first that takes it decides. The
three forms in which points in time are written share a date and a clock in digits; they part at the
sign of the year, at the fraction and at what follows it. So each reader is followed through the
digits once, and what it makes of a form depends on the rest.
-/

set_option autoImplicit false

namespace SqlBinding.Time

open Numeric Text

namespace Reader

variable {α β : Type}

/-! ### Readers of one part -/

/-- Two readers in a row, the second on what the first has left. -/
theorem bind_apply (r : Reader α) (f : α → Reader β) (cs : List Char) :
    (r >>= f) cs = (r cs).bind fun p => f p.1 p.2 := rfl

/-- What was read is passed on, with the rest of the text. -/
theorem bind_of_eq {r : Reader α} {cs rest : List Char} {a : α} (h : r cs = some (a, rest))
    (f : α → Reader β) : (r >>= f) cs = f a rest := congrArg (Option.bind · _) h

/-- What the first of two readers refuses, both refuse. -/
theorem bind_of_eq_none {r : Reader α} {cs : List Char} (h : r cs = none) (f : α → Reader β) :
    (r >>= f) cs = none := congrArg (Option.bind · _) h

/-- A value that is given reads nothing. -/
theorem pure_apply (a : α) (cs : List Char) : (pure a : Reader α) cs = some (a, cs) := rfl

/-- A value that may be missing reads nothing. -/
theorem lift_apply (a : Option α) (cs : List Char) :
    (liftM a : Reader α) cs = a.map (·, cs) := by cases a <;> rfl

/-- A character that matches is read. -/
theorem char_cons {p : Char → Bool} {c : Char} (h : p c) (rest : List Char) :
    char p (c :: rest) = some (c, rest) := if_pos h

/-- A character that is expected is read. -/
theorem literal_cons (c : Char) (rest : List Char) : literal c (c :: rest) = some ((), rest) := by
  simp [literal, bind_apply, char, pure_apply]

/-- Another character than the expected one is refused. -/
theorem literal_of_ne {c d : Char} (h : d ≠ c) (rest : List Char) :
    literal c (d :: rest) = none := by
  simp [literal, bind_apply, char, h]

/-- In front of what is no blank, no blanks are read. -/
theorem blanks_of_head {cs : List Char} (h : ∀ c ∈ cs.head?, isBlank c = false) :
    blanks cs = some ((), cs) := by
  have hnil : Blank [] := nofun
  exact congrArg (fun rest => some ((), rest)) (trimStart_blank hnil h)

section

variable {least most : Nat} {digits : List Char}

/-- Digits are read up to the end of their run, or up to the width. -/
theorem number_append (hdigits : ∀ c ∈ digits, c.isDigit) (hleast : least ≤ digits.length)
    (hmost : digits.length ≤ most) {rest : List Char}
    (hrest : digits.length = most ∨ ∀ c ∈ rest.head?, c.isDigit = false) :
    number least most (digits ++ rest) = some (Decimal.value digits, rest) := by
  have hhead : ∀ c ∈ (rest.take (most - digits.length)).head?, c.isDigit = false := by
    rcases hrest with hwidth | hrest
    · rw [hwidth, Nat.sub_self, List.take_zero]
      nofun
    · rw [List.head?_take]
      split
      · nofun
      · exact hrest
  have hrun : ((digits ++ rest).take most).takeWhile Char.isDigit = digits := by
    rw [List.take_append, List.take_of_length_le hmost]
    exact (span_of_head hdigits hhead).1
  rw [number, hrun, if_neg (Nat.not_lt.2 hleast), List.drop_left]

/-- More digits than the width leave one at the beginning of the rest. -/
theorem exists_number_wide {n : Nat} (hpos : 0 < most) (hleast : least ≤ most)
    (hn : 10 ^ most ≤ n) (rest : List Char) :
    ∃ m c more, number least most (Decimal.padded most n ++ rest) = some (m, c :: more) ∧
      c.isDigit := by
  generalize hdigits : Decimal.padded most n = digits
  have hmost : most < digits.length := hdigits ▸ Decimal.lt_length_padded hpos hn
  have hall : ∀ c ∈ digits, c.isDigit := hdigits ▸ fun c => Decimal.isDigit_of_mem_padded
  have hrun : ((digits ++ rest).take most).takeWhile Char.isDigit = digits.take most := by
    rw [List.take_append_of_le_length hmost.le]
    exact List.takeWhile_eq_self_iff.2 fun c hc => hall c (List.mem_of_mem_take hc)
  have hwidth : (digits.take most).length = most := List.length_take_of_le hmost.le
  refine ⟨Decimal.value (digits.take most), digits[most], digits.drop (most + 1) ++ rest, ?_,
    hall _ (List.getElem_mem hmost)⟩
  rw [number, hrun, hwidth, if_neg (Nat.not_lt.2 hleast), List.drop_append_of_le_length hmost.le,
    List.drop_eq_getElem_cons hmost, List.cons_append]

/-- No number begins with another character than a digit. -/
theorem number_of_head (hleast : 0 < least) {c : Char} (hc : c.isDigit = false)
    (rest : List Char) : number least most (c :: rest) = none := by
  have hrun : ((c :: rest).take most).takeWhile Char.isDigit = [] := by
    cases most with
    | zero => rfl
    | succ most => rw [List.take_succ_cons, List.takeWhile_cons, hc, if_neg Bool.false_ne_true]
  rw [number, hrun, List.length_nil, if_pos hleast]

/-- A number is read up to the greatest width it may have, whatever follows. -/
theorem number_padded {n : Nat} (hpos : 0 < most) (hleast : least ≤ most) (hn : n < 10 ^ most)
    (rest : List Char) : number least most (Decimal.padded most n ++ rest) = some (n, rest) := by
  have hwidth := Decimal.length_padded hpos hn
  rw [number_append (fun c => Decimal.isDigit_of_mem_padded) (hleast.trans hwidth.ge) hwidth.le
    (.inl hwidth), Decimal.value_padded]

end

/-- Four digits are read as a number, whatever follows. -/
theorem number_four {n : Nat} (h : n ≤ 9999) (rest : List Char) :
    number 4 4 (Decimal.padded 4 n ++ rest) = some (n, rest) :=
  number_padded (by decide) le_rfl (Nat.lt_succ_of_le h) rest

/-- Two digits are read as a number, whatever follows. -/
theorem number_two {n : Nat} (h : n < 100) (rest : List Char) :
    number 2 2 (Decimal.padded 2 n ++ rest) = some (n, rest) :=
  number_padded (by decide) le_rfl h rest

/-- A number stands behind no blanks. -/
theorem blanks_padded (width n : Nat) (rest : List Char) :
    blanks (Decimal.padded width n ++ rest) = some ((), Decimal.padded width n ++ rest) := by
  obtain ⟨c, cs, hcons, hdigit⟩ := Decimal.exists_cons_padded width n
  rw [hcons]
  refine blanks_of_head ?_
  rintro c ⟨⟩
  exact isBlank_of_isDigit hdigit

/-- A field of two digits is read, whatever follows. -/
theorem field_padded {n : Nat} (h : n < 100) (rest : List Char) :
    field (Decimal.padded 2 n ++ rest) = some (n, rest) := by
  have hwidth : n < 10 ^ 2 := h
  rw [field, bind_of_eq (blanks_padded 2 n rest), number_padded (by decide) (by decide) hwidth]

/-- A year without a sign is read as a number of up to four digits. -/
theorem year_padded (width n : Nat) (rest : List Char) :
    year (Decimal.padded width n ++ rest) =
      (number 1 4 (Decimal.padded width n ++ rest)).map fun (n, tail) => ((n : Int), tail) := by
  rw [year, bind_apply, blanks_padded]
  obtain ⟨c, cs, hcons, hdigit⟩ := Decimal.exists_cons_padded width n
  have hplus : c ≠ '+' := ne_of_isDigit hdigit rfl
  have hminus : c ≠ '-' := ne_of_isDigit hdigit rfl
  simp [hcons, hplus, hminus]

/-- A year is read as it was written, whether it has a sign or not. -/
theorem year_yearText (y : Int) {rest : List Char} (hrest : ∀ c ∈ rest.head?, c.isDigit = false) :
    year (yearText y ++ rest) = some (y, rest) := by
  have hsigned : number 1 (Decimal.padded 4 y.natAbs ++ rest).length
      (Decimal.padded 4 y.natAbs ++ rest) = some (y.natAbs, rest) := by
    rw [number_append (fun c => Decimal.isDigit_of_mem_padded)
      (List.length_pos_iff.2 (Decimal.padded_ne_nil 4 y.natAbs)) (by simp) (.inr hrest),
      Decimal.value_padded]
  have hblanks (sign : Char) (hsign : isBlank sign = false) :
      blanks (sign :: (Decimal.padded 4 y.natAbs ++ rest)) =
        some ((), sign :: (Decimal.padded 4 y.natAbs ++ rest)) := by
    refine blanks_of_head ?_
    rintro c ⟨⟩
    exact hsign
  unfold yearText
  by_cases hneg : y < 0
  · rw [if_pos hneg, List.cons_append, year, bind_apply, hblanks '-' rfl]
    have hvalue : -(y.natAbs : Int) = y := by omega
    simp only [Option.bind_some, hsigned, Option.map_some, hvalue]
  · rw [if_neg hneg]
    by_cases hwide : 9999 < y
    · rw [if_pos hwide, List.cons_append, year, bind_apply, hblanks '+' rfl]
      have hvalue : (y.natAbs : Int) = y := by omega
      simp only [Option.bind_some, hsigned, Option.map_some, hvalue]
    · have hvalue : (y.natAbs : Int) = y := by omega
      rw [if_neg hwide, year_padded, number_padded (by decide) (by decide) (by omega)]
      exact congrArg (fun y => some (y, rest)) hvalue

/-! ### Fractions -/

/-- Without a point there are no nanoseconds. -/
theorem fraction_of_head {cs : List Char} (h : ∀ c ∈ cs.head?, c ≠ '.') :
    fraction cs = some (0, cs) := by
  unfold fraction
  split
  · exact absurd rfl (h '.' rfl)
  · rfl

/-- Up to nine digits behind a point are read as nanoseconds. -/
theorem fraction_point {digits rest : List Char} {n : Nat} (hread : readNanos digits = some n)
    (hrest : ∀ c ∈ rest.head?, c.isDigit = false) :
    fraction ('.' :: (digits ++ rest)) = some (n, rest) := by
  unfold readNanos at hread
  split at hread
  · cases hread
  · rename_i hform
    simp only [Bool.or_eq_true, decide_eq_true_eq, Bool.not_eq_true', not_or, Nat.not_lt,
      Bool.not_eq_false, List.all_eq_true] at hform
    obtain ⟨⟨hne, hlength⟩, hdigits⟩ := hform
    have hrun := span_of_head hdigits hrest
    simp only [fraction, hrun.1, List.take_of_length_le hlength, List.drop_left, hne]
    exact congrArg (fun n => some (n, rest)) (Option.some.inj hread)

/-- Digits behind a point are filled up to nanoseconds. -/
theorem readNanos_padded {width n : Nat} (hpos : 0 < width) (hwidth : width ≤ 9)
    (hn : n < 10 ^ width) :
    readNanos (Decimal.padded width n) = some (n * 10 ^ (9 - width)) := by
  have hlength := Decimal.length_padded hpos hn
  have hform : ¬ ((Decimal.padded width n).isEmpty || decide (9 < (Decimal.padded width n).length)
      || !(Decimal.padded width n).all Char.isDigit) := by
    have hdigits : (Decimal.padded width n).all Char.isDigit :=
      List.all_eq_true.2 fun c => Decimal.isDigit_of_mem_padded
    simp [Decimal.padded_ne_nil, hlength, hdigits, hwidth]
  rw [readNanos, if_neg hform, hlength, Decimal.value_padded]
  rfl

/-- The fraction of the exchange form is read back. -/
theorem fraction_exchangeFraction {nanos : Nat} (hlt : nanos < nanosPerSecond) {rest : List Char}
    (hrest : ∀ c ∈ rest.head?, c.isDigit = false ∧ c ≠ '.') :
    fraction (exchangeFraction nanos ++ rest) = some (nanos, rest) := by
  by_cases hzero : nanos = 0
  · rw [exchangeFraction, if_pos hzero, hzero]
    exact fraction_of_head fun c hc => (hrest c hc).2
  · obtain ⟨digits, hdigits, hread, -⟩ := exists_fraction_digits hzero hlt
    rw [hdigits]
    exact fraction_point hread fun c hc => (hrest c hc).1

/-- The fraction of RFC 3339 is read back. -/
theorem fraction_fractionText {nanos : Nat} (hlt : nanos < nanosPerSecond) {rest : List Char}
    (hrest : ∀ c ∈ rest.head?, c.isDigit = false ∧ c ≠ '.') :
    fraction (fractionText nanos ++ rest) = some (nanos, rest) := by
  have hnanos : nanos < 10 ^ 9 := hlt
  have hpoint (width n : Nat) (hpos : 0 < width) (hwidth : width ≤ 9) (hn : n < 10 ^ width)
      (hvalue : n * 10 ^ (9 - width) = nanos) :
      fraction ('.' :: (Decimal.padded width n ++ rest)) = some (nanos, rest) := by
    rw [fraction_point (readNanos_padded hpos hwidth hn) fun c hc => (hrest c hc).1, hvalue]
  unfold fractionText
  split
  · next hzero =>
    rw [hzero]
    exact fraction_of_head fun c hc => (hrest c hc).2
  · split
    · exact hpoint 3 _ (by decide) (by decide) (by omega) (by omega)
    · split
      · exact hpoint 6 _ (by decide) (by decide) (by omega) (by omega)
      · exact hpoint 9 _ (by decide) (by decide) (by omega) (by omega)

end Reader

/-! ### Offsets -/

/-- Hours and minutes behind a sign are read as the seconds they make. -/
theorem rfcOffset_sign {sign : Char} (hsign : sign = '+' ∨ sign = '-') {hours minutes : Nat}
    (hhours : hours < 100) (hminutes : minutes < 60) (rest : List Char) :
    rfcOffset (sign :: (Decimal.padded 2 hours ++ ':' :: (Decimal.padded 2 minutes ++ rest))) =
      (Offset.ofSeconds? (if sign = '+' then 3600 * hours + 60 * minutes
        else -(3600 * hours + 60 * minutes))).map (·, rest) := by
  have hmark : ¬ (sign = 'Z' ∨ sign = 'z') := by rcases hsign with rfl | rfl <;> decide
  have hchar : (sign == 'Z' || sign == 'z' || sign == '+' || sign == '-' || sign == '\u2212') := by
    rcases hsign with rfl | rfl <;> rfl
  have hwidth : minutes < 100 := by omega
  rw [rfcOffset, Reader.bind_of_eq (Reader.char_cons hchar _), if_neg hmark,
    Reader.bind_of_eq (Reader.number_two hhours _), Reader.bind_of_eq (Reader.literal_cons ':' _),
    Reader.bind_of_eq (Reader.number_two hwidth _), if_neg (Nat.not_le.2 hminutes)]
  exact Reader.lift_apply _ rest

/-- An offset whose seconds are left to the rest is read in hours and minutes. -/
theorem rfcOffset_minutes (o : Offset) {hours minutes : Nat}
    (hhours : hours = o.seconds.natAbs / 3600) (hminutes : minutes = o.seconds.natAbs % 3600 / 60)
    (rest : List Char) :
    ∃ read, rfcOffset ((if o.seconds < 0 then '-' else '+') ::
        (Decimal.padded 2 hours ++ ':' :: (Decimal.padded 2 minutes ++ rest))) =
          some (read, rest) ∧
      (o.seconds.natAbs % 60 = 0 → read = o) := by
  have hmin := o.gt_min
  have hmax := o.lt_max
  simp only [secondsPerDay] at hmin hmax
  have hhoursLt : hours < 100 := by omega
  have hminutesLt : minutes < 60 := by omega
  -- The seconds that are read are those of the offset, without what is left to the rest.
  have hread : ∃ n : Int, rfcOffset ((if o.seconds < 0 then '-' else '+') ::
        (Decimal.padded 2 hours ++ ':' :: (Decimal.padded 2 minutes ++ rest))) =
          (Offset.ofSeconds? n).map (·, rest) ∧
      (-(secondsPerDay : Int) < n ∧ n < secondsPerDay) ∧
      (o.seconds.natAbs % 60 = 0 → n = o.seconds) := by
    by_cases hneg : o.seconds < 0
    · rw [if_pos hneg, rfcOffset_sign (.inr rfl) hhoursLt hminutesLt]
      refine ⟨-(3600 * hours + 60 * minutes), rfl, ?_, fun h => ?_⟩
      · simp only [secondsPerDay]
        omega
      · omega
    · rw [if_neg hneg, rfcOffset_sign (.inl rfl) hhoursLt hminutesLt]
      refine ⟨3600 * hours + 60 * minutes, rfl, ?_, fun h => ?_⟩
      · simp only [secondsPerDay]
        omega
      · omega
  obtain ⟨n, hread, hbounds, hwhole⟩ := hread
  have hsome : Offset.ofSeconds? n = some ⟨n, hbounds.1, hbounds.2⟩ := dif_pos hbounds
  refine ⟨⟨n, hbounds.1, hbounds.2⟩, by rw [hread, hsome]; rfl, fun h => ?_⟩
  have hoffset := o.ofSeconds?_eq
  rw [← hwhole h, hsome] at hoffset
  exact Option.some.inj hoffset

/-- An offset in exchange form is read up to its seconds. -/
theorem rfcOffset_exchangeText (o : Offset) (rest : List Char) :
    ∃ read left, rfcOffset (o.exchangeText ++ rest) = some (read, left ++ rest) ∧
      (left = [] → read = o) := by
  by_cases hzero : o.seconds = 0
  · have hoffset := o.ofSeconds?_eq
    rw [hzero] at hoffset
    rw [Offset.exchangeText, if_pos hzero]
    exact ⟨.utc, [], rfl, fun _ => Option.some.inj hoffset⟩
  · let left := if o.seconds.natAbs % 60 = 0 then [] else
      ':' :: Decimal.padded 2 (o.seconds.natAbs % 60)
    obtain ⟨read, hread, hwhole⟩ := rfcOffset_minutes o rfl rfl (left ++ rest)
    have htext : o.exchangeText ++ rest = (if o.seconds < 0 then '-' else '+') ::
        (Decimal.padded 2 (o.seconds.natAbs / 3600) ++ ':' ::
          (Decimal.padded 2 (o.seconds.natAbs % 3600 / 60) ++ (left ++ rest))) := by
      simp [Offset.exchangeText_eq hzero, Offset.magnitudeText, left]
    refine ⟨read, left, htext ▸ hread, fun hleft => hwhole ?_⟩
    by_contra hseconds
    rw [show left = _ from if_neg hseconds] at hleft
    cases hleft

/-- An offset of whole minutes is read as it was written. -/
theorem rfcOffset_text {o : Offset} (h : o.seconds.natAbs % 60 = 0) :
    rfcOffset o.text = some (o, []) := by
  obtain ⟨read, hread, hwhole⟩ := rfcOffset_minutes o rfl rfl []
  have hhours : (o.seconds.natAbs + 30) / 60 / 60 = o.seconds.natAbs / 3600 := by omega
  have hminutes : (o.seconds.natAbs + 30) / 60 % 60 = o.seconds.natAbs % 3600 / 60 := by omega
  rw [hwhole h, List.append_nil] at hread
  rw [Offset.text, hhours, hminutes]
  exact hread

/-! ### Dates and clocks in digits -/

/-- A number has no blanks in it. -/
theorem solid_padded : ∀ width n, Solid (Decimal.padded width n) :=
  Decimal.forall_mem_padded fun _ => isBlank_of_isDigit

/-- The digits of a date behind those of its year. -/
def Date.behindYear (year : List Char) (d : Date) : List Char :=
  year ++ '-' :: (Decimal.padded 2 d.month ++ '-' :: Decimal.padded 2 d.day)

/-- A date and what ends without a blank has none at its ends. -/
theorem Date.tight_behindYear {year last : List Char} (hyear : Solid year) (hyearNe : year ≠ [])
    (d : Date) (between : List Char) (hlast : Solid last) (hlastNe : last ≠ []) :
    Tight (d.behindYear year ++ (between ++ last)) := by
  have htight := tight_append hyear hyearNe
    ('-' :: (Decimal.padded 2 d.month ++ '-' :: Decimal.padded 2 d.day) ++ between) hlast hlastNe
  simpa [behindYear] using htight

/-- The text of a date begins with its year. -/
theorem Date.text_eq (d : Date) : d.text = d.behindYear (yearText d.year) := by
  simp [Date.text, behindYear]

/-- The exchange text of a date begins with its year in its era. -/
theorem Date.exchangeText_eq (d : Date) :
    d.exchangeText = d.behindYear (Decimal.padded 4 d.eraYear) := rfl

/-- A month has two digits. -/
theorem Date.month_lt (d : Date) : d.month < 100 := Nat.lt_of_le_of_lt d.month_le (by decide)

/-- A day has two digits. -/
theorem Date.day_lt (d : Date) : d.day < 100 := Nat.lt_of_le_of_lt d.day_le (by decide)

/-- An hour has two digits. -/
theorem TimeOfDay.hour_lt_hundred (c : TimeOfDay) : c.hour < 100 :=
  Nat.lt_trans c.hour_lt (by decide)

/-- A minute has two digits. -/
theorem TimeOfDay.minute_lt_hundred (c : TimeOfDay) : c.minute < 100 :=
  Nat.lt_trans c.minute_lt (by decide)

/-- The second in the text of a time of day, which is 60 for a leap second. -/
def TimeOfDay.writtenSecond (c : TimeOfDay) : Nat := c.second + c.nano / nanosPerSecond

/-- A written second has two digits, that of a leap second too. -/
theorem TimeOfDay.writtenSecond_lt (c : TimeOfDay) : c.writtenSecond < 100 := by
  have hsecond := c.second_lt
  have hnano := c.nano_lt
  simp only [nanosPerSecond] at hnano
  simp only [writtenSecond, nanosPerSecond]
  omega

/-- The text of a time of day, field by field. -/
theorem TimeOfDay.text_append (c : TimeOfDay) (rest : List Char) :
    c.text ++ rest = Decimal.padded 2 c.hour ++ ':' :: (Decimal.padded 2 c.minute ++ ':' ::
      (Decimal.padded 2 c.writtenSecond ++ rest)) := by
  simp [text, writtenSecond]

/-- The time of day that is written with second 60 is the leap second behind second 59. -/
theorem clockWithLeap?_written {c : TimeOfDay}
    (hleap : nanosPerSecond ≤ c.nano → c.second = 59) :
    clockWithLeap? c.hour c.minute c.writtenSecond c.fraction = some c := by
  have hsecond := c.second_lt
  have hnano := c.nano_lt
  unfold TimeOfDay.writtenSecond TimeOfDay.fraction clockWithLeap?
  by_cases h : nanosPerSecond ≤ c.nano
  · have hquotient : c.nano / nanosPerSecond = 1 :=
      (Nat.div_eq_iff (by decide)).2 (by simp only [nanosPerSecond] at *; omega)
    have hremainder : nanosPerSecond + c.nano % nanosPerSecond = c.nano := by
      rw [Nat.mod_eq_sub_mod h, Nat.mod_eq_of_lt (by omega)]
      omega
    have hclock := c.ofHms?_eq (.inr (hleap h))
    rw [hleap h] at hclock
    rw [hquotient, hleap h, if_pos rfl, hremainder, hclock]
  · rw [Nat.div_eq_of_lt (Nat.not_le.1 h), Nat.mod_eq_of_lt (Nat.not_le.1 h), Nat.add_zero,
      if_neg (Nat.ne_of_lt hsecond), c.ofHms?_eq (.inl (Nat.not_le.1 h))]

/-- A time of day without its leap second is read back from its text and nanoseconds. -/
theorem clockWithLeap?_withoutLeap (c : TimeOfDay) :
    clockWithLeap? c.withoutLeap.hour c.withoutLeap.minute c.withoutLeap.writtenSecond
      c.fraction = some c.withoutLeap := by
  have hfraction : c.withoutLeap.fraction = c.fraction := Nat.mod_eq_of_lt c.fraction_lt
  rw [← hfraction]
  exact clockWithLeap?_written fun hleap => absurd c.fraction_lt (Nat.not_lt.2 hleap)

/-- The text of a date is read as its year, month and day. -/
theorem dateReader_text (y : Int) (d : Date) (rest : List Char) :
    dateReader (d.behindYear (yearText y) ++ rest) =
      (Date.ofYmd? y d.month d.day).map (·, rest) := by
  have hhyphen (rest : List Char) : ∀ c ∈ ('-' :: rest).head?, c.isDigit = false := by
    rintro c ⟨⟩
    rfl
  rw [Date.behindYear, List.append_assoc, List.cons_append, List.append_assoc, List.cons_append,
    dateReader, Reader.bind_of_eq (Reader.year_yearText y (hhyphen _)),
    Reader.bind_of_eq (Reader.literal_cons '-' _),
    Reader.bind_of_eq (Reader.field_padded d.month_lt _),
    Reader.bind_of_eq (Reader.literal_cons '-' _),
    Reader.bind_of_eq (Reader.field_padded d.day_lt _), Reader.lift_apply]

/-- A year of more than four digits and no sign is not read to its end. -/
theorem dateReader_wide {n : Nat} (h : 9999 < n) (d : Date) (rest : List Char) :
    dateReader (d.behindYear (Decimal.padded 4 n) ++ rest) = none := by
  obtain ⟨y, c, more, hread, hdigit⟩ := Reader.exists_number_wide (by decide) (by decide : 1 ≤ 4) h
    ('-' :: (Decimal.padded 2 d.month ++ '-' :: Decimal.padded 2 d.day) ++ rest)
  have hyear : Reader.year (Decimal.padded 4 n ++
      ('-' :: (Decimal.padded 2 d.month ++ '-' :: Decimal.padded 2 d.day) ++ rest)) =
        some ((y : Int), c :: more) := by
    rw [Reader.year_padded, hread]
    rfl
  rw [dateReader, Date.behindYear, List.append_assoc, Reader.bind_of_eq hyear,
    Reader.bind_of_eq_none (Reader.literal_of_ne (ne_of_isDigit hdigit rfl) more)]

/-- A date, a time of day and nanoseconds are read, if nothing follows. -/
theorem dateTimeReader_text {between : Reader Unit} {cs rest tail left : List Char} {date : Date}
    {c : TimeOfDay} {nanos : Nat} (hdate : dateReader cs = some (date, rest))
    (hbetween : between rest = some ((), c.text ++ tail))
    (hfraction : Reader.fraction tail = some (nanos, left)) :
    (dateTimeReader between).run? cs =
      if left = [] then
        (clockWithLeap? c.hour c.minute c.writtenSecond nanos).map (⟨date, ·⟩)
      else none := by
  rw [c.text_append] at hbetween
  rw [Reader.run?, dateTimeReader, Reader.bind_of_eq hdate, Reader.bind_of_eq hbetween,
    Reader.bind_of_eq (Reader.field_padded c.hour_lt_hundred _),
    Reader.bind_of_eq (Reader.literal_cons ':' _),
    Reader.bind_of_eq (Reader.field_padded c.minute_lt_hundred _),
    Reader.bind_of_eq (Reader.literal_cons ':' _),
    Reader.bind_of_eq (Reader.field_padded c.writtenSecond_lt _), Reader.bind_of_eq hfraction]
  cases left with
  | nil => cases clockWithLeap? c.hour c.minute c.writtenSecond nanos <;> rfl
  | cons => rfl

/-- RFC 3339 is read as a date, a time of day and an offset, if nothing follows. -/
theorem rfc3339Reader_text {y : Nat} (hy : y ≤ 9999) (d : Date) {between : Char}
    (hbetween : between = 'T' ∨ between = ' ') (c : TimeOfDay) {tail rest : List Char}
    {nanos : Nat} (hfraction : Reader.fraction tail = some (nanos, rest)) :
    rfc3339Reader.run? (d.behindYear (Decimal.padded 4 y) ++ between :: (c.text ++ tail)) =
      (rfcOffset rest).bind fun p =>
        if p.2 = [] then
          (Date.ofYmd? y d.month d.day).bind fun date =>
            (clockWithLeap? c.hour c.minute c.writtenSecond nanos).bind fun time =>
              Timestamp.ofLocal? ⟨date, time⟩ p.1
        else none := by
  have hmark (rest : List Char) : Reader.char (fun c => c == 'T' || c == 't' || c == ' ')
      (between :: rest) = some (between, rest) := by
    rcases hbetween with rfl | rfl <;> exact Reader.char_cons rfl rest
  rw [Date.behindYear, List.append_assoc, List.cons_append, List.append_assoc, List.cons_append,
    c.text_append, Reader.run?, rfc3339Reader, Reader.bind_of_eq (Reader.number_four hy _),
    Reader.bind_of_eq (Reader.literal_cons '-' _),
    Reader.bind_of_eq (Reader.number_two d.month_lt _),
    Reader.bind_of_eq (Reader.literal_cons '-' _),
    Reader.bind_of_eq (Reader.number_two d.day_lt _), Reader.bind_of_eq (hmark _),
    Reader.bind_of_eq (Reader.number_two c.hour_lt_hundred _),
    Reader.bind_of_eq (Reader.literal_cons ':' _),
    Reader.bind_of_eq (Reader.number_two c.minute_lt_hundred _),
    Reader.bind_of_eq (Reader.literal_cons ':' _),
    Reader.bind_of_eq (Reader.number_two c.writtenSecond_lt _), Reader.bind_of_eq hfraction]
  simp only [Reader.bind_apply, Reader.lift_apply]
  rcases rfcOffset rest with _ | ⟨offset, _ | ⟨c, left⟩⟩
  · rfl
  · cases Date.ofYmd? y d.month d.day with
    | none => rfl
    | some date =>
      cases clockWithLeap? c.hour c.minute c.writtenSecond nanos with
      | none => rfl
      | some time =>
        show ((Timestamp.ofLocal? ⟨date, time⟩ offset).map (·, [])).map (·.1) =
          Timestamp.ofLocal? ⟨date, time⟩ offset
        cases Timestamp.ofLocal? ⟨date, time⟩ offset <;> rfl
  · rfl

/-- In RFC 3339 a year has four digits. -/
theorem rfc3339Reader_wide {n : Nat} (h : 9999 < n) (d : Date) (rest : List Char) :
    rfc3339Reader.run? (d.behindYear (Decimal.padded 4 n) ++ rest) = none := by
  obtain ⟨y, c, more, hread, hdigit⟩ := Reader.exists_number_wide (by decide) (le_refl 4) h
    ('-' :: (Decimal.padded 2 d.month ++ '-' :: Decimal.padded 2 d.day) ++ rest)
  rw [Reader.run?, rfc3339Reader, Date.behindYear, List.append_assoc, Reader.bind_of_eq hread,
    Reader.bind_of_eq_none (Reader.literal_of_ne (ne_of_isDigit hdigit rfl) more), Option.map_none]

/-- RFC 3339 begins with a digit. -/
theorem rfc3339Reader_of_head {c : Char} (hc : c.isDigit = false) (rest : List Char) :
    rfc3339Reader.run? (c :: rest) = none := by
  rw [Reader.run?, rfc3339Reader,
    Reader.bind_of_eq_none (Reader.number_of_head (by decide) hc rest), Option.map_none]

/-- A date and time is not read where what is between them is not. -/
theorem dateTimeReader_eq_none {between : Reader Unit} {cs : List Char}
    (h : ∀ date rest, dateReader cs = some (date, rest) → between rest = none) :
    (dateTimeReader between).run? cs = none := by
  cases hdate : dateReader cs with
  | none => rw [Reader.run?, dateTimeReader, Reader.bind_of_eq_none hdate, Option.map_none]
  | some p =>
    rw [Reader.run?, dateTimeReader, Reader.bind_of_eq hdate,
      Reader.bind_of_eq_none (h p.1 p.2 hdate), Option.map_none]

/-- The space in front of a time of day is skipped. -/
theorem blanks_space_text (c : TimeOfDay) (rest : List Char) :
    Reader.blanks (' ' :: (c.text ++ rest)) = some ((), c.text ++ rest) := by
  rw [c.text_append]
  exact Reader.blanks_padded 2 c.hour _

/-- A year of four digits is written in these. -/
theorem yearText_natCast {n : Nat} (h : n ≤ 9999) : yearText n = Decimal.padded 4 n := by
  have hpositive : ¬ (n : Int) < 0 := by omega
  have hnarrow : ¬ 9999 < (n : Int) := by omega
  rw [yearText, if_neg hpositive, if_neg hnarrow, Int.natAbs_natCast]

/-! ### The exchange form -/

namespace Timestamp

/-- The exchange form by what the readers take at once. -/
theorem exchangeText_parts (t : Timestamp) :
    t.exchangeText = t.wall.date.behindYear (Decimal.padded 4 t.wall.date.eraYear) ++
      ' ' :: (t.wall.time.withoutLeap.text ++ (exchangeFraction t.wall.time.fraction ++
        (t.offset.exchangeText ++ t.wall.date.era))) := by
  have hsecond : t.wall.time.fraction / nanosPerSecond = 0 :=
    Nat.div_eq_of_lt t.wall.time.fraction_lt
  rw [exchangeText_eq, Date.exchangeText_eq]
  simp [TimeOfDay.exchangeText, TimeOfDay.text, TimeOfDay.withoutLeap, hsecond]

/-- The fraction of the exchange form ends where the offset begins. -/
theorem fraction_exchangeZone (t : Timestamp) :
    Reader.fraction (exchangeFraction t.wall.time.fraction ++
        (t.offset.exchangeText ++ t.wall.date.era)) =
      some (t.wall.time.fraction, t.offset.exchangeText ++ t.wall.date.era) := by
  obtain ⟨mark, rest, hzone, hmark, -⟩ := t.offset.exists_cons_exchangeText
  refine Reader.fraction_exchangeFraction t.wall.time.fraction_lt ?_
  rw [hzone]
  rintro c ⟨⟩
  revert hmark
  simp only [List.mem_cons, List.not_mem_nil, or_false]
  rintro (rfl | rfl | rfl) <;> decide

/-- Where the exchange form is RFC 3339, it is read as such. -/
theorem rfc3339Reader_exchangeText (t : Timestamp) :
    rfc3339Reader.run? t.exchangeText = none ∨
      rfc3339Reader.run? t.exchangeText = some t.withoutLeap := by
  rw [exchangeText_parts]
  by_cases hwide : 9999 < t.wall.date.eraYear
  · exact .inl (rfc3339Reader_wide hwide _ _)
  obtain ⟨read, left, hoffset, hwhole⟩ := rfcOffset_exchangeText t.offset t.wall.date.era
  rw [rfc3339Reader_text (Nat.not_lt.1 hwide) _ (.inr rfl) _ t.fraction_exchangeZone, hoffset,
    Option.bind_some]
  by_cases hend : left ++ t.wall.date.era = []
  · obtain ⟨hleft, hera⟩ := List.append_eq_nil_iff.1 hend
    have hlocal := t.withoutLeap.ofLocal?_eq
    refine .inr ?_
    rw [if_pos hend, Date.eraYear_of_era hera, Date.ofYmd?_eq, Option.bind_some,
      clockWithLeap?_withoutLeap, Option.bind_some, hwhole hleft]
    exact hlocal
  · exact .inl (if_neg hend)

/-- Behind the date of the exchange form stands its time of day, whatever the date is read as. -/
theorem dateReader_exchangeText {t : Timestamp} {date : Date} {rest : List Char}
    (h : dateReader t.exchangeText = some (date, rest)) :
    rest = ' ' :: (t.wall.time.withoutLeap.text ++ (exchangeFraction t.wall.time.fraction ++
      (t.offset.exchangeText ++ t.wall.date.era))) := by
  rw [exchangeText_parts] at h
  by_cases hwide : 9999 < t.wall.date.eraYear
  · rw [dateReader_wide hwide] at h
    cases h
  · rw [← yearText_natCast (Nat.not_lt.1 hwide), dateReader_text] at h
    obtain ⟨d, -, hd⟩ := Option.map_eq_some_iff.1 h
    cases hd
    rfl

/-- A date and time ends before the offset of the exchange form. -/
theorem dateTimeReader_exchangeText (t : Timestamp) :
    (dateTimeReader Reader.blanks).run? t.exchangeText = none ∧
      (dateTimeReader (Reader.literal 'T')).run? t.exchangeText = none := by
  constructor
  · cases hdate : dateReader t.exchangeText with
    | none => exact dateTimeReader_eq_none fun date rest h => by simp [hdate] at h
    | some p =>
      have hrest := dateReader_exchangeText hdate
      have hzone : t.offset.exchangeText ++ t.wall.date.era ≠ [] := by
        obtain ⟨mark, rest, hzone, -⟩ := t.offset.exists_cons_exchangeText
        simp [hzone]
      rw [dateTimeReader_text hdate (by rw [hrest]; exact blanks_space_text _ _)
        t.fraction_exchangeZone, if_neg hzone]
  · refine dateTimeReader_eq_none fun date rest h => ?_
    rw [dateReader_exchangeText h]
    exact Reader.literal_of_ne (by decide) _

/-- The exchange form has no blanks at its ends. -/
theorem tight_exchangeText (t : Timestamp) : Tight t.exchangeText := by
  have hend : ∃ before last, t.offset.exchangeText ++ t.wall.date.era = before ++ last ∧
      Solid last ∧ last ≠ [] := by
    unfold Date.era
    split
    · exact ⟨t.offset.exchangeText ++ [' '], ['B', 'C'], by simp, by decide, by decide⟩
    · obtain ⟨mark, rest, hzone, hmark, hrest⟩ := t.offset.exists_cons_exchangeText
      have hmarks : Solid ['Z', '+', '-'] := by decide
      refine ⟨[], t.offset.exchangeText, by simp, ?_, by simp [hzone]⟩
      rw [hzone]
      exact List.forall_mem_cons.2 ⟨hmarks mark hmark, hrest _ (fun c => isBlank_of_isDigit) rfl⟩
  obtain ⟨before, last, hzone, hlast, hlastNe⟩ := hend
  have htight := Date.tight_behindYear (solid_padded 4 t.wall.date.eraYear)
    (Decimal.padded_ne_nil 4 t.wall.date.eraYear) t.wall.date
    (' ' :: (t.wall.time.withoutLeap.text ++ (exchangeFraction t.wall.time.fraction ++ before)))
    hlast hlastNe
  rw [exchangeText_parts, hzone]
  simpa using htight

/-- The exchange form is scanned as the point in time, with a leap second as the second it
follows. -/
theorem scan_exchangeText (t : Timestamp) : scan t.exchangeText = .ok t.withoutLeap := by
  obtain ⟨hblanks, hliteral⟩ := t.dateTimeReader_exchangeText
  have hexchange := t.ofExchange_exchangeText
  rw [scan, trim_eq_self t.tight_exchangeText]
  rcases t.rfc3339Reader_exchangeText with hrfc | hrfc
  · simp [hrfc, hblanks, hliteral, hexchange]
  · simp [hrfc]

end Timestamp

/-! ### The form inside literals -/

namespace LocalDateTime

/-- The form inside literals by what the readers take at once. -/
theorem literalText_parts (w : LocalDateTime) :
    w.literalText = w.date.behindYear (yearText w.date.year) ++
      ' ' :: (w.time.text ++ ('.' :: (Decimal.padded 9 w.time.fraction ++ []))) := by
  rw [literalText, Date.text_eq]
  simp

/-- The fraction of the form inside literals is read back. -/
theorem fraction_literal (w : LocalDateTime) :
    Reader.fraction ('.' :: (Decimal.padded 9 w.time.fraction ++ [])) =
      some (w.time.fraction, []) := by
  have hread := Reader.readNanos_padded (by decide : 0 < 9) le_rfl w.time.fraction_lt
  rw [Nat.sub_self, Nat.pow_zero, Nat.mul_one] at hread
  exact Reader.fraction_point hread nofun

/-- A year has a sign in front, or four digits. -/
theorem yearText_cases (y : Int) :
    (∃ sign rest, yearText y = sign :: rest ∧ (sign = '-' ∨ sign = '+')) ∨
      y.natAbs ≤ 9999 ∧ yearText y = Decimal.padded 4 y.natAbs := by
  unfold yearText
  split
  · exact .inl ⟨'-', _, rfl, .inl rfl⟩
  · split
    · exact .inl ⟨'+', _, rfl, .inr rfl⟩
    · exact .inr ⟨by omega, rfl⟩

/-- RFC 3339 needs an offset, which the form inside literals does not have. -/
theorem rfc3339Reader_literalText (w : LocalDateTime) :
    rfc3339Reader.run? w.literalText = none := by
  rw [literalText_parts]
  rcases yearText_cases w.date.year with ⟨sign, rest, hyear, hsign⟩ | ⟨hnarrow, hyear⟩
  · have hdigit : sign.isDigit = false := by rcases hsign with rfl | rfl <;> rfl
    rw [hyear, Date.behindYear, List.cons_append, List.cons_append]
    exact rfc3339Reader_of_head hdigit _
  · rw [hyear, rfc3339Reader_text hnarrow _ (.inr rfl) _ w.fraction_literal]
    rfl

/-- The form inside literals is read back as a date and time. -/
theorem dateTimeReader_literalText {w : LocalDateTime}
    (hleap : nanosPerSecond ≤ w.time.nano → w.time.second = 59) :
    (dateTimeReader Reader.blanks).run? w.literalText = some w := by
  have hdate := dateReader_text w.date.year w.date
    (' ' :: (w.time.text ++ ('.' :: (Decimal.padded 9 w.time.fraction ++ []))))
  rw [Date.ofYmd?_eq] at hdate
  rw [literalText_parts, dateTimeReader_text hdate (blanks_space_text _ _) w.fraction_literal,
    if_pos rfl, clockWithLeap?_written hleap]
  rfl

/-- A year is written in digits and signs. -/
theorem forall_mem_yearText {p : Char → Prop} (hdigit : ∀ c, c.isDigit → p c)
    (hsign : p '-' ∧ p '+') (y : Int) : ∀ c ∈ yearText y, p c := by
  have hdigits := Decimal.forall_mem_padded hdigit 4 y.natAbs
  unfold yearText
  dsimp only
  split
  · exact List.forall_mem_cons.2 ⟨hsign.1, hdigits⟩
  · split
    · exact List.forall_mem_cons.2 ⟨hsign.2, hdigits⟩
    · exact hdigits

/-- A year is not written as the empty text. -/
theorem yearText_ne_nil (y : Int) : yearText y ≠ [] := by
  have hdigits := Decimal.padded_ne_nil 4 y.natAbs
  unfold yearText
  split
  · exact List.cons_ne_nil _ _
  · split
    · exact List.cons_ne_nil _ _
    · exact hdigits

/-- The form inside literals is made of digits, signs and separators. -/
theorem forall_mem_literalText {p : Char → Prop} (hdigit : ∀ c, c.isDigit → p c)
    (hsign : p '-' ∧ p '+') (hseparator : p ' ' ∧ p ':' ∧ p '.') (w : LocalDateTime) :
    ∀ c ∈ w.literalText, p c := by
  have hdigits := Decimal.forall_mem_padded hdigit
  simp only [literalText_parts, Date.behindYear, TimeOfDay.text_append, List.append_nil,
    List.forall_mem_append, List.forall_mem_cons]
  exact ⟨⟨forall_mem_yearText hdigit hsign _, hsign.1, hdigits _ _, hsign.1, hdigits _ _⟩,
    hseparator.1, hdigits _ _, hseparator.2.1, hdigits _ _, hseparator.2.1, hdigits _ _,
    hseparator.2.2, hdigits _ _⟩

/-- The form inside literals has no blanks at its ends. -/
theorem tight_literalText (w : LocalDateTime) : Tight w.literalText := by
  have hyear : Solid (yearText w.date.year) :=
    forall_mem_yearText (fun c => isBlank_of_isDigit) ⟨rfl, rfl⟩ _
  have htight := Date.tight_behindYear hyear (yearText_ne_nil w.date.year) w.date
    (' ' :: (w.time.text ++ ['.'])) (solid_padded 9 w.time.fraction)
    (Decimal.padded_ne_nil 9 w.time.fraction)
  rw [literalText_parts]
  simpa using htight

/-- The form inside literals is scanned as the same time in UTC. -/
theorem scan_literalText {w : LocalDateTime}
    (hleap : nanosPerSecond ≤ w.time.nano → w.time.second = 59) :
    Timestamp.scan w.literalText = .ok (.ofUtc w) := by
  rw [Timestamp.scan, trim_eq_self w.tight_literalText, w.rfc3339Reader_literalText,
    dateTimeReader_literalText hleap]
  rfl

end LocalDateTime

/-- A time of day is the one at its own second. -/
theorem TimeOfDay.atSecondOfDay_secondOfDay (c : TimeOfDay) :
    c.atSecondOfDay c.secondOfDay = c := by
  obtain ⟨hour, minute, second, nano, hhour, hminute, hsecond, hnano⟩ := c
  simp only [atSecondOfDay, secondOfDay, mk.injEq, and_true]
  omega

namespace Timestamp

/-- What is taken to be in UTC is the same in UTC. -/
theorem utc_ofUtc (w : LocalDateTime) : (ofUtc w).utc = w := by
  have hday : (w.time.secondOfDay : Int) < secondsPerDay := by
    have hhour := w.time.hour_lt
    have hminute := w.time.minute_lt
    have hsecond := w.time.second_lt
    simp only [TimeOfDay.secondOfDay, secondsPerDay]
    omega
  have hshift : w.shift? (-Offset.utc.seconds) = some w := by
    have htotal : (w.time.secondOfDay : Int) + -Offset.utc.seconds = w.time.secondOfDay :=
      Int.add_zero _
    rw [LocalDateTime.shift?, htotal, Int.emod_eq_of_lt (Int.natCast_nonneg _) hday,
      Int.toNat_natCast, TimeOfDay.atSecondOfDay_secondOfDay, if_neg (by omega), if_pos hday]
  exact Option.get_of_eq_some _ hshift

/-! ### RFC 3339 -/

/-- RFC 3339 by what its reader takes at once. -/
theorem rfc3339_parts {t : Timestamp} (hmin : 0 ≤ t.wall.date.year)
    (hmax : t.wall.date.year ≤ 9999) :
    t.rfc3339 = t.wall.date.behindYear (Decimal.padded 4 t.wall.date.year.natAbs) ++
      'T' :: (t.wall.time.text ++ (fractionText t.wall.time.fraction ++ t.offset.text)) := by
  have hzone : (if t.offset.seconds = 0 then Offset.utc.text else t.offset.text) =
      t.offset.text := by
    split
    · next hzero => simp [Offset.text, Offset.utc, hzero]
    · rfl
  rw [rfc3339, rfc3339With, hzone, Date.text_eq, yearText, if_neg (Int.not_lt.2 hmin),
    if_neg (Int.not_lt.2 hmax)]
  simp

/-- The fraction of RFC 3339 ends where the offset begins. -/
theorem fraction_rfcZone (t : Timestamp) :
    Reader.fraction (fractionText t.wall.time.fraction ++ t.offset.text) =
      some (t.wall.time.fraction, t.offset.text) := by
  refine Reader.fraction_fractionText t.wall.time.fraction_lt ?_
  rw [Offset.text]
  rintro c ⟨⟩
  split <;> decide

/-- RFC 3339 is read back, if the year has four digits and the offset no seconds. -/
theorem rfc3339Reader_rfc3339 {t : Timestamp}
    (hleap : nanosPerSecond ≤ t.wall.time.nano → t.wall.time.second = 59)
    (hmin : 0 ≤ t.wall.date.year) (hmax : t.wall.date.year ≤ 9999)
    (hoffset : 60 ∣ t.offset.seconds) : rfc3339Reader.run? t.rfc3339 = some t := by
  have hyear : (t.wall.date.year.natAbs : Int) = t.wall.date.year := Int.natAbs_of_nonneg hmin
  have hzone : rfcOffset t.offset.text = some (t.offset, []) := rfcOffset_text (by omega)
  rw [rfc3339_parts hmin hmax, rfc3339Reader_text (by omega) _ (.inl rfl) _ t.fraction_rfcZone,
    hzone, Option.bind_some, if_pos rfl, hyear, Date.ofYmd?_eq, Option.bind_some,
    clockWithLeap?_written hleap, Option.bind_some, ofLocal?_eq]

/-- RFC 3339 has no blanks at its ends. -/
theorem tight_rfc3339 {t : Timestamp} (hmin : 0 ≤ t.wall.date.year)
    (hmax : t.wall.date.year ≤ 9999) : Tight t.rfc3339 := by
  have hzone : Solid t.offset.text := by
    simp only [Offset.text, Solid, List.cons_append, List.forall_mem_append, List.forall_mem_cons]
    refine ⟨?_, solid_padded _ _, rfl, solid_padded _ _⟩
    split <;> rfl
  have htight := Date.tight_behindYear (solid_padded 4 t.wall.date.year.natAbs)
    (Decimal.padded_ne_nil 4 t.wall.date.year.natAbs) t.wall.date
    ('T' :: (t.wall.time.text ++ fractionText t.wall.time.fraction)) hzone (by simp [Offset.text])
  rw [rfc3339_parts hmin hmax]
  simpa using htight

/-- RFC 3339 is scanned as the point in time. -/
theorem scan_rfc3339 {t : Timestamp}
    (hleap : nanosPerSecond ≤ t.wall.time.nano → t.wall.time.second = 59)
    (hmin : 0 ≤ t.wall.date.year) (hmax : t.wall.date.year ≤ 9999)
    (hoffset : 60 ∣ t.offset.seconds) : scan t.rfc3339 = .ok t := by
  rw [scan, trim_eq_self (tight_rfc3339 hmin hmax), rfc3339Reader_rfc3339 hleap hmin hmax hoffset]
  rfl

end Timestamp

end SqlBinding.Time
