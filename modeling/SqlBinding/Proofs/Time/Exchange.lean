import Mathlib.Data.List.DropRight
import SqlBinding.Proofs.Numeric.DecimalText
import SqlBinding.Proofs.Outcome
import SqlBinding.Proofs.Text.Runs
import SqlBinding.Time.Exchange

/-!
# The exchange form read back

The exchange form of a point in time is put together from a date, a clock, an offset and an era, and
each of them is read as what was written. The reader cuts a text at the first character that ends a
part, so for each part it is shown which characters do not occur in it. A leap second is written as
the second it follows, and is the only thing that reading cannot give back.
-/

set_option autoImplicit false

namespace SqlBinding.Time

open Numeric Text

/-! ### Cutting a text -/

section

variable {sep : Char} {part rest : List Char}

/-- A text is split before the first character that matches. -/
theorem splitBefore_append {p : Char → Bool} (hpart : ∀ c ∈ part, p c = false)
    (hrest : ∀ c ∈ rest.head?, p c) : splitBefore p (part ++ rest) = (part, rest) := by
  have hrun : ∀ c ∈ part, !p c := fun c hc => by rw [hpart c hc]; rfl
  have hhead : ∀ c ∈ rest.head?, (!p c) = false := fun c hc => by rw [hrest c hc]; rfl
  rw [splitBefore, (span_of_head hrun hhead).1, (span_of_head hrun hhead).2]

/-- A text is split at the first separator. -/
theorem splitOnce?_append (h : sep ∉ part) :
    splitOnce? sep (part ++ sep :: rest) = some (part, rest) := by
  have hpart : ∀ c ∈ part, (c == sep) = false := fun c hc =>
    beq_false_of_ne fun heq => h (heq ▸ hc)
  rw [splitOnce?, splitBefore_append hpart (by simp)]

/-- A text without a separator is not split. -/
theorem splitOnce?_of_not_mem (h : sep ∉ part) : splitOnce? sep part = none := by
  have hpart : ∀ c ∈ part, (c == sep) = false := fun c hc =>
    beq_false_of_ne fun heq => h (heq ▸ hc)
  have hsplit : splitBefore (· == sep) (part ++ []) = (part, []) := splitBefore_append hpart nofun
  rw [List.append_nil] at hsplit
  rw [splitOnce?, hsplit]

/-- A text without a separator is one part. -/
theorem splitAll_of_not_mem (h : sep ∉ part) : splitAll sep part = [part] := by
  induction part with
  | nil => rfl
  | cons c part ih =>
    obtain ⟨hc, hpart⟩ := List.ne_and_not_mem_of_not_mem_cons h
    rw [splitAll, if_neg hc.symm, ih hpart]

/-- The part in front of the first separator comes first. -/
theorem splitAll_append (h : sep ∉ part) :
    splitAll sep (part ++ sep :: rest) = part :: splitAll sep rest := by
  induction part with
  | nil => exact if_pos rfl
  | cons c part ih =>
    obtain ⟨hc, hpart⟩ := List.ne_and_not_mem_of_not_mem_cons h
    rw [List.cons_append, splitAll, if_neg hc.symm, ih hpart]

end

/-- A digit is no separator. -/
theorem ne_of_isDigit {c sep : Char} (hc : c.isDigit) (hsep : sep.isDigit = false) : c ≠ sep := by
  rintro rfl
  rw [hc] at hsep
  cases hsep

/-- Digits have no separators among them. -/
theorem not_mem_padded {sep : Char} (hsep : sep.isDigit = false) (width n : Nat) :
    sep ∉ Decimal.padded width n := fun h =>
  ne_of_isDigit (Decimal.isDigit_of_mem_padded h) hsep rfl

/-- The era is taken off the end of a text. -/
theorem stripEra_append (body : List Char) : stripEra (body ++ [' ', 'B', 'C']) = (body, true) := by
  simp [stripEra]

/-- A text that does not end like the era has none. -/
theorem stripEra_of_getLast? {body : List Char} (h : body.getLast? ≠ some 'C') :
    stripEra body = (body, false) := by
  refine if_neg fun hera => h ?_
  rw [← List.take_append_drop (body.length - 3) body, hera]
  simp

/-! ### The date -/

namespace Date

/-- The year of a date within its era. -/
def eraYear (d : Date) : Nat := (if d.year ≤ 0 then 1 - d.year else d.year).natAbs

/-- A date in exchange form, without its era. -/
def exchangeText (d : Date) : List Char :=
  Decimal.padded 4 d.eraYear ++ '-' :: (Decimal.padded 2 d.month ++ '-' :: Decimal.padded 2 d.day)

/-- What marks the years before 1. -/
def era (d : Date) : List Char := if d.year ≤ 0 then [' ', 'B', 'C'] else []

/-- A date is made from its year, month and day. -/
theorem ofYmd?_eq (d : Date) : ofYmd? d.year d.month d.day = some d := dif_pos d.isDate

/-- There are twelve months. -/
theorem month_le (d : Date) : d.month ≤ 12 := d.isDate.2.1.2

/-- No month has more than 31 days. -/
theorem day_le (d : Date) : d.day ≤ 31 := by
  refine Nat.le_trans d.isDate.2.2.2 ?_
  unfold daysInMonth
  split
  · split <;> decide
  · split <;> decide

/-- The years of both eras are bounded. -/
theorem eraYear_le (d : Date) : d.eraYear ≤ 262144 := by
  obtain ⟨hmin, hmax⟩ := d.isDate.1
  simp only [minYear, maxYear] at hmin hmax
  unfold eraYear
  split <;> omega

/-- The year is found again from the year within its era. -/
theorem year_of_eraYear (d : Date) :
    (if decide (d.year ≤ 0) then 1 - (d.eraYear : Int) else d.eraYear) = d.year := by
  unfold eraYear
  by_cases h : d.year ≤ 0
  · simp only [h, decide_true, if_true]
    omega
  · simp only [h, decide_false, Bool.false_eq_true, if_false]
    omega

/-- In the later era, years are counted as they are. -/
theorem eraYear_of_era {d : Date} (h : d.era = []) : (d.eraYear : Int) = d.year := by
  have hyear := d.year_of_eraYear
  unfold era at h
  split at h
  · cases h
  · rename_i hpositive
    rwa [decide_eq_false hpositive, if_neg Bool.false_ne_true] at hyear

/-- The numbers of a date in exchange form make it up again. -/
theorem readExchangeDate_text (d : Date) : ∃ year month day,
    readExchangeDate d.exchangeText = some (year, month, day) ∧
      exchangeDate? (decide (d.year ≤ 0)) year month day = some d := by
  have hhyphen (width n : Nat) : '-' ∉ Decimal.padded width n := not_mem_padded rfl width n
  obtain ⟨year, hyear, hyearVal⟩ := IntKind.exists_parse_padded (k := .i64) 4
    (Nat.le_trans d.eraYear_le (by decide))
  obtain ⟨month, hmonth, hmonthVal⟩ := IntKind.exists_parse_padded (k := .i64) 2
    (Nat.le_trans d.month_le (by decide))
  obtain ⟨day, hday, hdayVal⟩ := IntKind.exists_parse_padded (k := .i64) 2
    (Nat.le_trans d.day_le (by decide))
  refine ⟨year, month, day, ?_, ?_⟩
  · simp only [readExchangeDate, exchangeText, splitOnce?_append (hhyphen _ _), hyear, hmonth, hday,
      Except.toOption, Option.bind_eq_bind, Option.bind_some, Option.pure_def]
  · have hpositive : ¬ (month.val < 0 ∨ day.val < 0) := by omega
    have hsame := d.year_of_eraYear
    rw [exchangeDate?, if_neg hpositive, hyearVal, hmonthVal, hdayVal, Int.toNat_natCast,
      Int.toNat_natCast, hsame, ofYmd?_eq]

end Date

/-! ### The clock -/

/-- The digits of a fraction that are written, filled up to nine with zeros. -/
theorem exists_fraction_digits {nanos : Nat} (hpos : nanos ≠ 0) (hlt : nanos < nanosPerSecond) :
    ∃ digits, exchangeFraction nanos = '.' :: digits ∧ readNanos digits = some nanos ∧
      ∀ c ∈ digits, c.isDigit := by
  let digits := (Decimal.padded 9 nanos).rdropWhile (· == '0')
  let zeros := (Decimal.padded 9 nanos).rtakeWhile (· == '0')
  have hparts : digits ++ zeros = Decimal.padded 9 nanos := List.rdropWhile_append_rtakeWhile
  have hzeros : zeros = List.replicate zeros.length '0' :=
    List.eq_replicate_of_mem fun c hc => eq_of_beq (List.mem_rtakeWhile_imp (p := (· == _)) hc)
  have hdigits : ∀ c ∈ digits, c.isDigit := fun c hc =>
    Decimal.isDigit_of_mem_padded (hparts ▸ List.mem_append_left zeros hc)
  have hlength : digits.length + zeros.length = 9 := by
    rw [← List.length_append, hparts, Decimal.length_padded (by decide) hlt]
  have hvalue : Decimal.value digits * 10 ^ zeros.length = nanos := by
    have hzero : Decimal.value zeros = 0 := by
      rw [hzeros, Decimal.value, Nat.ofDigitChars_replicate_zero, Nat.mul_zero]
    rw [← Decimal.value_padded 9 nanos, ← hparts, Decimal.value_append, hzero, Nat.add_zero,
      Nat.mul_comm]
  have hne : digits ≠ [] := by
    intro hnil
    rw [hnil] at hvalue
    exact hpos (hvalue.symm.trans (Nat.zero_mul _))
  refine ⟨digits, if_neg hpos, ?_, hdigits⟩
  have hread : ¬ (digits.isEmpty || decide (9 < digits.length) || !digits.all Char.isDigit) := by
    simp [hne, List.all_eq_true.2 hdigits]
    omega
  have hplaces : 9 - digits.length = zeros.length := by omega
  rw [readNanos, if_neg hread, hplaces]
  exact congrArg some hvalue

namespace TimeOfDay

/-- A time of day in exchange form. -/
def exchangeText (c : TimeOfDay) : List Char :=
  Decimal.padded 2 c.hour ++ ':' :: (Decimal.padded 2 c.minute ++ ':' ::
    (Decimal.padded 2 c.second ++ exchangeFraction c.fraction))

/-- The time of day with the nanoseconds counted within its second. -/
def withoutLeap (c : TimeOfDay) : TimeOfDay where
  hour := c.hour
  minute := c.minute
  second := c.second
  nano := c.fraction
  hour_lt := c.hour_lt
  minute_lt := c.minute_lt
  second_lt := c.second_lt
  nano_lt := Nat.lt_of_lt_of_le (Nat.mod_lt _ (by decide)) (by decide)

/-- The nanoseconds within a second are less than a second. -/
theorem fraction_lt (c : TimeOfDay) : c.fraction < nanosPerSecond := Nat.mod_lt _ (by decide)

/-- The fields of a time of day make it up again, unless it is a leap second at another second
than 59. -/
theorem ofHms?_eq {c : TimeOfDay} (h : c.nano < nanosPerSecond ∨ c.second = 59) :
    ofHms? c.hour c.minute c.second c.nano = some c :=
  (dif_pos ⟨c.hour_lt, c.minute_lt, c.second_lt, c.nano_lt⟩).trans (if_pos h)

/-- The numbers of a time of day in exchange form make it up again, without its leap second. -/
theorem readExchangeClock_text (c : TimeOfDay) : ∃ hour minute second,
    readExchangeClock c.exchangeText = some (hour, minute, second, c.fraction) ∧
      ofHms? hour.val.toNat minute.val.toNat second.val.toNat c.fraction = some c.withoutLeap := by
  have hcolon (n : Nat) : ':' ∉ Decimal.padded 2 n := not_mem_padded rfl 2 n
  have hpoint (n : Nat) : '.' ∉ Decimal.padded 2 n := not_mem_padded rfl 2 n
  let hms := Decimal.padded 2 c.hour ++ ':' :: (Decimal.padded 2 c.minute ++ ':' ::
    Decimal.padded 2 c.second)
  have hparts : splitAll ':' hms =
      [Decimal.padded 2 c.hour, Decimal.padded 2 c.minute, Decimal.padded 2 c.second] := by
    rw [splitAll_append (hcolon _), splitAll_append (hcolon _), splitAll_of_not_mem (hcolon _)]
  have hnoPoint : '.' ∉ hms := by simp [hms, hpoint]
  obtain ⟨hour, hhour, hhourVal⟩ := IntKind.exists_parse_padded (k := .u32) 2
    (Nat.le_trans c.hour_lt.le (by decide))
  obtain ⟨minute, hminute, hminuteVal⟩ := IntKind.exists_parse_padded (k := .u32) 2
    (Nat.le_trans c.minute_lt.le (by decide))
  obtain ⟨second, hsecond, hsecondVal⟩ := IntKind.exists_parse_padded (k := .u32) 2
    (Nat.le_trans c.second_lt.le (by decide))
  refine ⟨hour, minute, second, ?_, ?_⟩
  · by_cases hzero : c.fraction = 0
    · have htext : c.exchangeText = hms := by simp [exchangeText, hms, exchangeFraction, hzero]
      simp only [readExchangeClock, htext, splitOnce?_of_not_mem hnoPoint, hparts, hhour, hminute,
        hsecond, hzero, Except.toOption, Option.bind_eq_bind, Option.bind_some, Option.pure_def]
    · obtain ⟨digits, hfraction, hnanos, -⟩ := exists_fraction_digits hzero c.fraction_lt
      have htext : c.exchangeText = hms ++ '.' :: digits := by simp [exchangeText, hms, hfraction]
      simp only [readExchangeClock, htext, splitOnce?_append hnoPoint, hparts, hhour, hminute,
        hsecond, hnanos, Except.toOption, Option.bind_eq_bind, Option.bind_some, Option.pure_def]
  · rw [hhourVal, hminuteVal, hsecondVal, Int.toNat_natCast, Int.toNat_natCast, Int.toNat_natCast]
    exact c.withoutLeap.ofHms?_eq (.inl c.fraction_lt)

end TimeOfDay

/-! ### The offset -/

/-- The numbers that a word holds. -/
theorem inWord_iff {n : Int} : InWord n ↔ -2147483648 ≤ n ∧ n < 2147483648 := Iff.rfl

/-- A number that fits a word is what it is. -/
theorem checkWord_of_inWord {n : Int} (h : InWord n) : checkWord n = .ok n := if_pos h

/-- A number that leaves a word stops the program. -/
theorem checkWord_of_not_inWord {n : Int} (h : ¬ InWord n) : checkWord n = .error .overflow :=
  if_neg h

/-- A small number fits a word. -/
theorem inWord_of_natAbs_lt {n : Int} (h : n.natAbs < 2 ^ 31) : InWord n := by
  rw [inWord_iff]
  omega

/-- One part is added to the sum, if that stays in a word. -/
theorem sumOffset_padded {total scale n : Nat} (hscale : 0 < scale)
    (hfit : total + n * scale < 2 ^ 31) (scales : List Int) (parts : List (List Char)) :
    sumOffset total (scale :: scales) (Decimal.padded 2 n :: parts) =
      sumOffset (total + n * scale : Nat) scales parts := by
  have hn : n ≤ n * scale := Nat.le_mul_of_pos_right n hscale
  have hmax : 2 ^ 31 - 1 ≤ IntKind.i32.maxNat := by decide
  obtain ⟨v, hv, hval⟩ := IntKind.exists_parse_padded (k := .i32) (n := n) 2 (by omega)
  have hproduct : checkWord (v.val * scale) = .ok (n * scale : Nat) := by
    rw [hval, ← Int.natCast_mul]
    exact checkWord_of_inWord (inWord_of_natAbs_lt (by omega))
  have hsum : checkWord (total + (n * scale : Nat)) = .ok (total + n * scale : Nat) := by
    rw [← Int.natCast_add]
    exact checkWord_of_inWord (inWord_of_natAbs_lt (by omega))
  rw [sumOffset, hv, Except.toOption, found, Outcome.ok_bind, hproduct, Outcome.ok_bind, hsum,
    Outcome.ok_bind]

namespace Offset

/-- An offset is made from its seconds. -/
theorem ofSeconds?_eq (o : Offset) : ofSeconds? o.seconds = some o := dif_pos ⟨o.gt_min, o.lt_max⟩

/-- The magnitude of an offset in exchange form. -/
def magnitudeText (n : Nat) : List Char :=
  Decimal.padded 2 (n / 3600) ++ ':' :: (Decimal.padded 2 (n % 3600 / 60) ++
    if n % 60 = 0 then [] else ':' :: Decimal.padded 2 (n % 60))

/-- The parts of an offset add up to its magnitude. -/
theorem sumOffset_magnitudeText {n : Nat} (hn : n < secondsPerDay) :
    sumOffset 0 [3600, 60, 1] (splitAll ':' (magnitudeText n)) = .ok (n : Int) := by
  have hday : n < 86400 := hn
  have hcolon (n : Nat) : ':' ∉ Decimal.padded 2 n := not_mem_padded rfl 2 n
  rw [magnitudeText, splitAll_append (hcolon _)]
  have hfit : 0 + n / 3600 * 3600 < 2 ^ 31 ∧ 0 + n / 3600 * 3600 + n % 3600 / 60 * 60 < 2 ^ 31 ∧
      0 + n / 3600 * 3600 + n % 3600 / 60 * 60 + n % 60 * 1 < 2 ^ 31 := by omega
  have hhours (parts : List (List Char)) :
      sumOffset 0 [3600, 60, 1] (Decimal.padded 2 (n / 3600) :: parts) =
        sumOffset (0 + n / 3600 * 3600 : Nat) [60, 1] parts :=
    sumOffset_padded (by decide) hfit.1 [60, 1] parts
  have hminutes (parts : List (List Char)) :
      sumOffset (0 + n / 3600 * 3600 : Nat) [60, 1] (Decimal.padded 2 (n % 3600 / 60) :: parts) =
        sumOffset (0 + n / 3600 * 3600 + n % 3600 / 60 * 60 : Nat) [1] parts :=
    sumOffset_padded (by decide) hfit.2.1 [1] parts
  by_cases hseconds : n % 60 = 0
  · have hsum : 0 + n / 3600 * 3600 + n % 3600 / 60 * 60 = n := by omega
    rw [if_pos hseconds, List.append_nil, splitAll_of_not_mem (hcolon _), hhours, hminutes, hsum]
    rfl
  · have hlast : sumOffset (0 + n / 3600 * 3600 + n % 3600 / 60 * 60 : Nat) [1]
          [Decimal.padded 2 (n % 60)] =
        sumOffset (0 + n / 3600 * 3600 + n % 3600 / 60 * 60 + n % 60 * 1 : Nat) [] [] :=
      sumOffset_padded (by decide) hfit.2.2 [] []
    have hsum : 0 + n / 3600 * 3600 + n % 3600 / 60 * 60 + n % 60 * 1 = n := by omega
    rw [if_neg hseconds, splitAll_append (hcolon _), splitAll_of_not_mem (hcolon _), hhours,
      hminutes, hlast, hsum]
    rfl

/-- An offset is written as its magnitude behind its sign, unless it is zero. -/
theorem exchangeText_eq {o : Offset} (h : o.seconds ≠ 0) :
    o.exchangeText = (if o.seconds < 0 then '-' else '+') :: magnitudeText o.seconds.natAbs := by
  rw [exchangeText, if_neg h, magnitudeText]
  simp

/-- An offset is read back from its exchange form; it never leaves a word. -/
theorem readExchangeOffset_text (o : Offset) : readExchangeOffset o.exchangeText = .ok o := by
  have hmin := o.gt_min
  have hmax := o.lt_max
  have hsum := sumOffset_magnitudeText (n := o.seconds.natAbs) (by omega)
  have hchecked : checkWord o.seconds = .ok o.seconds := by
    apply checkWord_of_inWord
    apply inWord_of_natAbs_lt
    simp only [secondsPerDay] at hmin hmax
    omega
  have hsigned (negative : Bool)
      (hsign : (if negative then -(o.seconds.natAbs : Int) else o.seconds.natAbs) = o.seconds) :
      readSignedOffset negative (magnitudeText o.seconds.natAbs) = .ok o := by
    rw [readSignedOffset, hsum, Outcome.ok_bind, hsign, hchecked, Outcome.ok_bind, o.ofSeconds?_eq]
    rfl
  by_cases hzero : o.seconds = 0
  · have hutc : ofSeconds? 0 = some o := hzero ▸ o.ofSeconds?_eq
    rw [exchangeText, if_pos hzero]
    exact congrArg Except.ok (Option.some.inj hutc)
  · rw [exchangeText_eq hzero]
    by_cases hneg : o.seconds < 0
    · rw [if_pos hneg]
      exact hsigned true (by rw [if_pos rfl]; omega)
    · rw [if_neg hneg]
      exact hsigned false (by rw [if_neg Bool.false_ne_true]; omega)

/-- An offset is written in digits and colons. -/
theorem forall_mem_magnitudeText {p : Char → Prop} (hdigit : ∀ c, c.isDigit → p c)
    (hcolon : p ':') (n : Nat) : ∀ c ∈ magnitudeText n, p c := by
  have hpadded := Decimal.forall_mem_padded hdigit 2
  simp only [magnitudeText, List.forall_mem_append, List.forall_mem_cons]
  refine ⟨hpadded _, hcolon, hpadded _, ?_⟩
  split
  · exact List.forall_mem_nil p
  · exact List.forall_mem_cons.2 ⟨hcolon, hpadded _⟩

/-- An offset begins with a mark, and goes on with digits and colons. -/
theorem exists_cons_exchangeText (o : Offset) :
    ∃ mark rest, o.exchangeText = mark :: rest ∧ mark ∈ ['Z', '+', '-'] ∧
      ∀ p : Char → Prop, (∀ c, c.isDigit → p c) → p ':' → ∀ c ∈ rest, p c := by
  by_cases hzero : o.seconds = 0
  · exact ⟨'Z', [], if_pos hzero, by decide, fun p _ _ => List.forall_mem_nil p⟩
  · refine ⟨_, _, exchangeText_eq hzero, ?_, fun p hdigit hcolon =>
      forall_mem_magnitudeText hdigit hcolon _⟩
    split <;> decide

end Offset

/-! ### The point in time -/

/-- A date is written in digits and hyphens. -/
theorem Date.forall_mem_exchangeText {p : Char → Prop} (hdigit : ∀ c, c.isDigit → p c)
    (hhyphen : p '-') (d : Date) : ∀ c ∈ d.exchangeText, p c := by
  have hpadded := Decimal.forall_mem_padded hdigit
  simp only [exchangeText, List.forall_mem_append, List.forall_mem_cons]
  exact ⟨hpadded _ _, hhyphen, hpadded _ _, hhyphen, hpadded _ _⟩

/-- A time of day is written in digits, colons and a point. -/
theorem TimeOfDay.forall_mem_exchangeText {p : Char → Prop} (hdigit : ∀ c, c.isDigit → p c)
    (hcolon : p ':') (hpoint : p '.') (t : TimeOfDay) : ∀ c ∈ t.exchangeText, p c := by
  have hpadded := Decimal.forall_mem_padded hdigit 2
  simp only [exchangeText, List.forall_mem_append, List.forall_mem_cons]
  refine ⟨hpadded _, hcolon, hpadded _, hcolon, hpadded _, ?_⟩
  by_cases hzero : t.fraction = 0
  · rw [exchangeFraction, if_pos hzero]
    exact List.forall_mem_nil p
  · obtain ⟨digits, hdigits, -, hall⟩ := exists_fraction_digits hzero t.fraction_lt
    rw [hdigits]
    exact List.forall_mem_cons.2 ⟨hpoint, fun c hc => hdigit c (hall c hc)⟩

/-- Whether a date and time has a UTC date depends on the seconds of its day alone. -/
theorem LocalDateTime.isSome_shift?_at {t : LocalDateTime} {c : TimeOfDay}
    (h : c.secondOfDay = t.time.secondOfDay) (n : Int) :
    (LocalDateTime.shift? ⟨t.date, c⟩ n).isSome = (t.shift? n).isSome := by
  unfold shift?
  simp only [h]
  split
  · rw [Option.isSome_map, Option.isSome_map]
  · split
    · rfl
    · rw [Option.isSome_map, Option.isSome_map]

namespace Timestamp

/-- The point in time with the nanoseconds counted within its second. -/
def withoutLeap (t : Timestamp) : Timestamp where
  wall := ⟨t.wall.date, t.wall.time.withoutLeap⟩
  offset := t.offset
  utc_isSome := (LocalDateTime.isSome_shift?_at (c := t.wall.time.withoutLeap) rfl _).trans
    t.utc_isSome

/-- A time that is in no leap second stays as it is. -/
theorem withoutLeap_of_lt {t : Timestamp} (h : t.wall.time.nano < nanosPerSecond) :
    t.withoutLeap = t := by
  obtain ⟨⟨date, time⟩, offset, hutc⟩ := t
  have htime : time.withoutLeap = time := by
    cases time
    simp only [TimeOfDay.withoutLeap, TimeOfDay.fraction, TimeOfDay.mk.injEq, true_and]
    exact Nat.mod_eq_of_lt h
  simp only [withoutLeap, htime]

/-- A point in time is made from its local time and its offset. -/
theorem ofLocal?_eq (t : Timestamp) : ofLocal? t.wall t.offset = some t := dif_pos t.utc_isSome

/-- The exchange form by its parts. -/
theorem exchangeText_eq (t : Timestamp) :
    t.exchangeText = t.wall.date.exchangeText ++
      ' ' :: (t.wall.time.exchangeText ++ t.offset.exchangeText) ++ t.wall.date.era := by
  simp [exchangeText, Date.exchangeText, Date.eraYear, Date.era, TimeOfDay.exchangeText]

/-- The era of a text in exchange form is told apart from the end of its offset. -/
theorem stripEra_exchangeText (t : Timestamp) :
    stripEra t.exchangeText =
      (t.wall.date.exchangeText ++ ' ' :: (t.wall.time.exchangeText ++ t.offset.exchangeText),
        decide (t.wall.date.year ≤ 0)) := by
  rw [exchangeText_eq, Date.era]
  by_cases hyear : t.wall.date.year ≤ 0
  · simp only [hyear, if_true, decide_true]
    exact stripEra_append _
  · simp only [hyear, if_false, decide_false, List.append_nil]
    obtain ⟨mark, rest, hzone, hmark, hrest⟩ := t.offset.exists_cons_exchangeText
    have hend : ∀ c ∈ mark :: rest, c ≠ 'C' := by
      refine List.forall_mem_cons.2 ⟨?_, hrest _ (fun c hc => ne_of_isDigit hc rfl) (by decide)⟩
      rintro rfl
      revert hmark
      decide
    rw [hzone]
    refine stripEra_of_getLast? fun hlast => ?_
    have hlast' : (mark :: rest).getLast? = some 'C' := by
      simpa [List.getLast?_append, List.getLast?_cons] using hlast
    exact hend 'C' (List.mem_of_getLast? hlast') rfl

/-- The exchange form is read back, with a leap second as the second it follows. -/
theorem ofExchange_exchangeText (t : Timestamp) :
    ofExchange t.exchangeText = .ok t.withoutLeap := by
  have hspace : ' ' ∉ t.wall.date.exchangeText := fun h =>
    Date.forall_mem_exchangeText (p := (· ≠ ' ')) (fun c hc => ne_of_isDigit hc rfl) (by decide)
      t.wall.date ' ' h rfl
  have hcut : splitBefore (fun c => c == 'Z' || c == '+' || c == '-')
        (t.wall.time.exchangeText ++ t.offset.exchangeText) =
      (t.wall.time.exchangeText, t.offset.exchangeText) := by
    refine splitBefore_append ?_ fun c hc => ?_
    · let mark (c : Char) : Bool := c == 'Z' || c == '+' || c == '-'
      refine TimeOfDay.forall_mem_exchangeText (p := fun c => mark c = false) (fun c hc => ?_) rfl
        rfl t.wall.time
      have hz : c ≠ 'Z' := ne_of_isDigit hc rfl
      have hplus : c ≠ '+' := ne_of_isDigit hc rfl
      have hminus : c ≠ '-' := ne_of_isDigit hc rfl
      simp [mark, hz, hplus, hminus]
    · obtain ⟨mark, rest, hzone, hmark, -⟩ := t.offset.exists_cons_exchangeText
      rw [hzone] at hc
      cases hc
      simpa [or_assoc] using hmark
  obtain ⟨year, month, day, hdateRead, hdate⟩ := t.wall.date.readExchangeDate_text
  obtain ⟨hour, minute, second, hclockRead, htime⟩ := t.wall.time.readExchangeClock_text
  have hlocal : ofLocal? ⟨t.wall.date, t.wall.time.withoutLeap⟩ t.offset = some t.withoutLeap :=
    t.withoutLeap.ofLocal?_eq
  simp only [ofExchange, stripEra_exchangeText, splitOnce?_append hspace, hcut, hdateRead,
    hclockRead, t.offset.readExchangeOffset_text, hdate, htime, hlocal, found, Outcome.ok_bind]

end Timestamp

/-! ### What can be read -/

/-- Digits behind a point are read as less than a second. -/
theorem readNanos_lt {cs : List Char} {n : Nat} (h : readNanos cs = some n) :
    n < nanosPerSecond := by
  unfold readNanos at h
  split at h
  · cases h
  · rename_i hread
    cases h
    simp only [Bool.or_eq_true, List.isEmpty_iff, decide_eq_true_eq, Bool.not_eq_true', not_or,
      Nat.not_lt, Bool.not_eq_false, List.all_eq_true] at hread
    obtain ⟨⟨-, hlength⟩, hdigits⟩ := hread
    have hplaces : cs.length + (9 - cs.length) = 9 := Nat.add_sub_cancel' hlength
    calc Decimal.value cs * 10 ^ (9 - cs.length)
        < 10 ^ cs.length * 10 ^ (9 - cs.length) :=
          Nat.mul_lt_mul_of_pos_right (Decimal.value_lt hdigits) (Nat.pow_pos (by decide))
      _ = nanosPerSecond := by rw [← Nat.pow_add, hplaces]; rfl

/-- A time of day has the nanoseconds that it is made from. -/
theorem TimeOfDay.nano_of_ofHms? {hour minute second nano : Nat} {c : TimeOfDay}
    (h : ofHms? hour minute second nano = some c) : c.nano = nano := by
  unfold ofHms? at h
  split at h
  · split at h
    · cases h
      rfl
    · cases h
  · cases h

/-- No leap second is read from a clock. -/
theorem nanos_lt_of_readExchangeClock {cs : List Char} {hour minute second : U32} {nanos : Nat}
    (h : readExchangeClock cs = some (hour, minute, second, nanos)) : nanos < nanosPerSecond := by
  unfold readExchangeClock at h
  simp only [Option.bind_eq_bind] at h
  split at h
  · obtain ⟨_, -, h⟩ := Option.bind_eq_some_iff.1 h
    obtain ⟨_, -, h⟩ := Option.bind_eq_some_iff.1 h
    obtain ⟨_, -, h⟩ := Option.bind_eq_some_iff.1 h
    split at h
    · obtain ⟨_, hnanos, h⟩ := Option.bind_eq_some_iff.1 h
      cases h
      exact readNanos_lt hnanos
    · obtain ⟨_, hnanos, h⟩ := Option.bind_eq_some_iff.1 h
      cases h
      cases hnanos
      decide
  · cases h

/-- What is found is there. -/
theorem found_eq_ok_iff {α : Type} {x : Option α} {a : α} : found x = .ok a ↔ x = some a := by
  cases x <;> simp [found]

namespace Timestamp

/-- No leap second is read from a text. -/
theorem nano_lt_of_ofExchange {cs : List Char} {t : Timestamp} (h : ofExchange cs = .ok t) :
    t.wall.time.nano < nanosPerSecond := by
  unfold ofExchange at h
  obtain ⟨⟨dateText, rest⟩, -, h⟩ := Outcome.bind_eq_ok_iff.1 h
  obtain ⟨⟨year, month, day⟩, -, h⟩ := Outcome.bind_eq_ok_iff.1 h
  obtain ⟨⟨hour, minute, second, nanos⟩, hclock, h⟩ := Outcome.bind_eq_ok_iff.1 h
  obtain ⟨offset, -, h⟩ := Outcome.bind_eq_ok_iff.1 h
  obtain ⟨date, -, h⟩ := Outcome.bind_eq_ok_iff.1 h
  obtain ⟨time, htime, h⟩ := Outcome.bind_eq_ok_iff.1 h
  have hlocal := found_eq_ok_iff.1 h
  have hnano : t.wall.time.nano = nanos := by
    unfold ofLocal? at hlocal
    split at hlocal
    · cases hlocal
      exact TimeOfDay.nano_of_ofHms? (found_eq_ok_iff.1 htime)
    · cases hlocal
  rw [hnano]
  exact nanos_lt_of_readExchangeClock (found_eq_ok_iff.1 hclock)

/-- Every point in time is read back from its exchange form, at the same offset; of a leap second,
whichever second the clock shows, the nanoseconds past the second it follows are lost. What has been
read from any text at all is therefore read back as it is. -/
theorem exchange_round_trip (t : Timestamp) :
    (t.wall.time.nano < nanosPerSecond → ofExchange t.exchangeText = .ok t) ∧
    (nanosPerSecond ≤ t.wall.time.nano → ∃ read, ofExchange t.exchangeText = .ok read ∧
      read.offset = t.offset ∧ read.wall.date = t.wall.date ∧
      read.wall.time.hour = t.wall.time.hour ∧ read.wall.time.minute = t.wall.time.minute ∧
      read.wall.time.second = t.wall.time.second ∧
      read.wall.time.nano = t.wall.time.nano - nanosPerSecond) ∧
    ∀ cs, ofExchange cs = .ok t → ofExchange t.exchangeText = .ok t := by
  have hread := t.ofExchange_exchangeText
  have hplain : t.wall.time.nano < nanosPerSecond → ofExchange t.exchangeText = .ok t :=
    fun h => by rw [hread, withoutLeap_of_lt h]
  refine ⟨hplain, fun hleap => ?_, fun cs h => hplain (nano_lt_of_ofExchange h)⟩
  have hnano : t.wall.time.nano % nanosPerSecond = t.wall.time.nano - nanosPerSecond := by
    have hlt := t.wall.time.nano_lt
    rw [Nat.mod_eq_sub_mod hleap, Nat.mod_eq_of_lt (by omega)]
  exact ⟨t.withoutLeap, hread, rfl, rfl, rfl, rfl, rfl, hnano⟩

/-- A leap second of the year 44 BC, half an hour west of UTC. -/
def ides : Timestamp where
  wall := ⟨⟨-43, 3, 15, by decide⟩, ⟨12, 29, 59, 1500000000, by decide, by decide, by decide,
    by decide⟩⟩
  offset := ⟨-1747, by decide, by decide⟩
  utc_isSome := by decide

/-- A time in the year 10000, an hour east of UTC. -/
def fiveDigits : Timestamp where
  wall := ⟨⟨10000, 1, 1, by decide⟩, ⟨12, 34, 56, 1, by decide, by decide, by decide, by decide⟩⟩
  offset := ⟨3600, by decide, by decide⟩
  utc_isSome := by decide

/-- A quarter of a second into a leap second, an hour west of UTC. -/
def leapSecond : Timestamp where
  wall := ⟨⟨2016, 12, 31, by decide⟩, ⟨22, 59, 59, 1250000000, by decide, by decide, by decide,
    by decide⟩⟩
  offset := ⟨-3600, by decide, by decide⟩
  utc_isSome := by decide

/-- Half a second into the leap second that ended the year 2016, on a clock one second ahead of
UTC. -/
def newYear : Timestamp where
  wall := ⟨⟨2017, 1, 1, by decide⟩,
    { TimeOfDay.midnight with nano := 1500000000, nano_lt := by decide }⟩
  offset := ⟨1, by decide, by decide⟩
  utc_isSome := by decide

/-- A leap second loses a whole second, a time with five digits for its year loses nothing, and what
has been read from a text with short numbers is read back from the full one. -/
theorem exchange_round_trip_ides :
    nanosPerSecond ≤ ides.wall.time.nano ∧
      ides.exchangeText = "0044-03-15 12:29:59.5-00:29:07 BC".toList ∧
      (∃ read, ofExchange ides.exchangeText = .ok read ∧ read.offset = ides.offset ∧
        read.wall.date = ides.wall.date ∧ read.wall.time.nano = 500000000) ∧
      fiveDigits.wall.time.nano < nanosPerSecond ∧
      fiveDigits.exchangeText = "10000-01-01 12:34:56.000000001+01:00".toList ∧
      ofExchange fiveDigits.exchangeText = .ok fiveDigits ∧
      ofExchange "44-3-15 12:29:59.50-0:29:7:x BC".toList = .ok ides.withoutLeap ∧
      ofExchange ides.withoutLeap.exchangeText = .ok ides.withoutLeap := by
  have hleap : nanosPerSecond ≤ ides.wall.time.nano := by decide
  have hplain : fiveDigits.wall.time.nano < nanosPerSecond := by decide
  have hlenient : ofExchange "44-3-15 12:29:59.50-0:29:7:x BC".toList =
      .ok ides.withoutLeap := by decide +kernel
  obtain ⟨-, hides, -⟩ := ides.exchange_round_trip
  obtain ⟨read, hread, hoffset, hdate, -, -, -, hnano⟩ := hides hleap
  exact ⟨hleap, rfl, ⟨read, hread, hoffset, hdate, hnano⟩, hplain, rfl,
    fiveDigits.exchange_round_trip.1 hplain, hlenient,
    ides.withoutLeap.exchange_round_trip.2.2 _ hlenient⟩

/-- A clock whose offset has seconds shows a leap second at another second than 59, and what is
written there is read back without it, too. -/
theorem newYear_not_read_back :
    newYear.utc.time.second = 59 ∧ nanosPerSecond ≤ newYear.wall.time.nano ∧
      newYear.wall.time.second = 0 ∧
      newYear.exchangeText = "2017-01-01 00:00:00.5+00:00:01".toList ∧
      ¬ ∀ t : Timestamp, ¬ (nanosPerSecond ≤ t.wall.time.nano ∧ t.wall.time.second = 59) →
        ofExchange t.exchangeText = .ok t := by
  refine ⟨by decide, by decide, rfl, rfl, fun hall => ?_⟩
  have hother : ¬ (nanosPerSecond ≤ newYear.wall.time.nano ∧ newYear.wall.time.second = 59) := by
    decide
  have hback := hall newYear hother
  rw [newYear.ofExchange_exchangeText] at hback
  have hnano : newYear.withoutLeap.wall.time.nano = newYear.wall.time.nano :=
    congrArg (·.wall.time.nano) (Except.ok.inj hback)
  exact absurd hnano (by decide)

end Timestamp

end SqlBinding.Time
