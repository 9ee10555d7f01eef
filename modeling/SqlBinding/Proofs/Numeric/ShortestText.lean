import SqlBinding.Proofs.Numeric.DecimalText
import SqlBinding.Proofs.Numeric.Rounding
import SqlBinding.Proofs.Text.Runs

/-!
# The text of a floating-point number

The shortest decimal of a number is found by testing candidates against the interval of the reals
that round to the number, so whatever the search finds rounds to it, and reading the positional
notation of the decimal gives the number back. Only a NaN is not told by its text.
-/

set_option autoImplicit false

namespace SqlBinding.Numeric

/-! ### The shortest decimal -/

namespace RoundingInterval

variable {i : RoundingInterval}

/-- Whether a rational lies in an interval. -/
def Contains (i : RoundingInterval) (v : ℚ) : Prop :=
  Within i.closed i.low (v * i.denominator) i.high

/-- The check for a whole number says whether it lies in the interval. -/
theorem holds_iff {n : ℕ} : i.holds n = true ↔ i.Contains n := by
  unfold holds Contains
  rw [← Nat.cast_mul]
  cases i.closed with
  | true => simp only [Within, if_true, Bool.and_eq_true, decide_eq_true_eq, Nat.cast_le]
  | false =>
    simp only [Within, Bool.false_eq_true, if_false, Bool.and_eq_true, decide_eq_true_eq,
      Nat.cast_lt]

/-- An interval in steps of a power of ten holds the multiples that lie in the interval. -/
theorem contains_inSteps_iff {e : ℤ} {v : ℚ} :
    (i.inSteps e).Contains v ↔ i.Contains (v * 10 ^ e) := by
  have hpow : (0 : ℚ) < 10 ^ (-e).toNat := by positivity
  have hvalue : v * (i.denominator * 10 ^ e.toNat) =
      v * 10 ^ e * i.denominator * 10 ^ (-e).toNat := by
    rw [zpow_eq_div (by norm_num)]
    field_simp
  refine Iff.trans ?_ (Within.mul_iff hpow)
  rw [← hvalue]
  simp only [Contains, inSteps, Nat.cast_mul, cast_tenTo]

/-- The whole number that is chosen lies in the interval. -/
theorem contains_of_nearestWhole? {tie : TieRule} {n : ℕ} (h : i.nearestWhole? tie = some n) :
    i.Contains n := by
  unfold nearestWhole? at h
  dsimp only at h
  split at h
  · rename_i hbelow habove
    have hbelow' := (Bool.and_eq_true_iff.1 hbelow).1
    split at h
    · cases h
      exact holds_iff.1 habove
    · cases h
      exact holds_iff.1 hbelow'
  · rename_i hbelow habove
    cases h
    exact holds_iff.1 (Bool.and_eq_true_iff.1 hbelow).1
  · rename_i hbelow habove
    cases h
    exact holds_iff.1 habove
  · cases h

/-- Whatever the search finds lies in the interval. -/
theorem contains_of_search {tie : TieRule} {count : ℕ} {e : ℤ} {d : ScaledDecimal}
    (h : i.search tie count e = some d) : i.Contains d.value := by
  induction count generalizing e with
  | zero => cases h
  | succ count ih =>
    unfold search at h
    split at h
    · rename_i n hn
      cases h
      exact contains_inSteps_iff.1 (contains_of_nearestWhole? hn)
    · exact ih h

end RoundingInterval

namespace Binary

variable {F : FloatFormat} {x : Binary F}

/-- The interval of a number holds the rationals that round to it. -/
theorem contains_interval_iff (hpos : 0 < x.significand) {v : ℚ} :
    x.interval.Contains v ↔ x.Takes v := by
  have hden : (0 : ℚ) < 2 ^ (-(x.scale - 2)).toNat := by positivity
  have hhalf : x.lowerHalf ≤ 4 * x.significand := by
    unfold lowerHalf
    split <;> omega
  have hunit : (2 : ℚ) ^ x.scale * 2 ^ (-(x.scale - 2)).toNat = 4 * 2 ^ (x.scale - 2).toNat := by
    have hscale : (2 : ℚ) ^ x.scale = 4 * 2 ^ (x.scale - 2) := by
      rw [zpow_sub₀ two_ne_zero]
      norm_num
      ring
    rw [hscale, zpow_eq_div two_ne_zero (x.scale - 2)]
    field_simp
  have hlow : ((4 * x.significand - x.lowerHalf : ℕ) : ℚ) * 2 ^ (x.scale - 2).toNat =
      (x.significand - x.lowerHalf / 4) * 2 ^ x.scale * 2 ^ (-(x.scale - 2)).toNat := by
    rw [mul_assoc, hunit, Nat.cast_sub hhalf]
    push_cast
    ring
  have hhigh : ((4 * x.significand + 2 : ℕ) : ℚ) * 2 ^ (x.scale - 2).toNat =
      (x.significand + 1 / 2) * 2 ^ x.scale * 2 ^ (-(x.scale - 2)).toNat := by
    rw [mul_assoc, hunit]
    push_cast
    ring
  unfold Takes
  rw [← Within.mul_iff hden, ← hlow, ← hhigh, ← cast_twoTo, ← cast_twoTo, ← Nat.cast_mul,
    ← Nat.cast_mul]
  rfl

/-- The exact decimal of a number stands for its magnitude. -/
theorem value_exactDecimal (x : Binary F) :
    x.exactDecimal.value = x.significand * 2 ^ x.scale := by
  simp only [ScaledDecimal.value, exactDecimal]
  generalize x.scale = q
  rcases Int.le_total 0 q with hq | hq
  · obtain ⟨n, rfl⟩ := Int.eq_ofNat_of_zero_le hq
    simp
  · obtain ⟨n, rfl⟩ : ∃ n : ℕ, q = -n := ⟨(-q).toNat, by omega⟩
    have hten : (10 : ℚ) ^ n = 2 ^ n * 5 ^ n := by
      rw [← mul_pow]
      norm_num
    simp [hten]
    field_simp

/-- The exact decimal of a number rounds to it. -/
theorem takes_exactDecimal (x : Binary F) : x.Takes x.exactDecimal.value := by
  have hunit : (0 : ℚ) < 2 ^ x.scale := by positivity
  have hhalf : (1 : ℚ) ≤ x.lowerHalf := by
    unfold lowerHalf
    split <;> norm_num
  have hopen : Within false ((x.significand - x.lowerHalf / 4) * 2 ^ x.scale)
      (x.significand * 2 ^ x.scale) ((x.significand + 1 / 2) * 2 ^ x.scale) :=
    (Within.mul_iff hunit).2 ⟨by linarith, by linarith⟩
  rw [value_exactDecimal]
  exact hopen.of_open

/-- The shortest decimal rounds to the number. -/
theorem takes_shortest (hpos : 0 < x.significand) (tie : TieRule) :
    x.Takes (x.shortest tie).value := by
  unfold shortest
  rw [ScaledDecimal.value_stripped]
  cases hsearch : x.interval.search tie 17 x.interval.leadingExponent with
  | none => exact takes_exactDecimal x
  | some d => exact (contains_interval_iff hpos).1 (RoundingInterval.contains_of_search hsearch)

end Binary

/-! ### The text of a number -/

/-- Digits are read as the number they stand for. -/
theorem readDecimal_digits {cs : List Char} (hne : cs ≠ []) (hdigits : ∀ c ∈ cs, c.isDigit) :
    readDecimal cs = some (Decimal.value cs, 0) := by
  have hnil : ∀ c ∈ ([] : List Char).head?, c.isDigit = false := nofun
  have hspan := Text.span_of_head hdigits hnil
  rw [List.append_nil] at hspan
  simp [readDecimal, hspan.1, hspan.2, hne, readExponent]

/-- Digits around a point are read as one number, scaled down by the digits behind it. -/
theorem readDecimal_point {whole places : List Char} (hne : whole ≠ [])
    (hwhole : ∀ c ∈ whole, c.isDigit) (hplaces : ∀ c ∈ places, c.isDigit) :
    readDecimal (whole ++ '.' :: places) =
      some (Decimal.value (whole ++ places), -(places.length : ℤ)) := by
  have hpoint : ∀ c ∈ ('.' :: places).head?, c.isDigit = false := by simp
  have hnil : ∀ c ∈ ([] : List Char).head?, c.isDigit = false := nofun
  have hspan := Text.span_of_head hwhole hpoint
  have hrest := Text.span_of_head hplaces hnil
  rw [List.append_nil] at hrest
  simp [readDecimal, hspan.1, hspan.2, hrest.1, hrest.2, hne, readExponent]

namespace Binary

/-- A decimal without places behind its point is written in digits alone. -/
theorem positional_whole {d : ScaledDecimal} (h : 0 ≤ d.exponent) :
    positional d = Decimal.ofNat d.digits ++ List.replicate d.exponent.toNat '0' := by
  unfold positional
  dsimp only
  rw [if_pos]
  omega

/-- A decimal with places has at least one digit in front of its point. -/
theorem exists_positional_point {d : ScaledDecimal} (h : d.exponent < 0) :
    ∃ whole places, positional d = whole ++ '.' :: places ∧ whole ≠ [] ∧
      (∀ c ∈ whole ++ places, c.isDigit) ∧ Decimal.value (whole ++ places) = d.digits ∧
      -(places.length : ℤ) = d.exponent := by
  obtain ⟨k, hk⟩ := Int.eq_ofNat_of_zero_le (a := -d.exponent) (by omega)
  have hplaces : (-d.exponent).toNat = k := by omega
  have hdigits : ∀ c ∈ Decimal.padded (k + 1) d.digits, c.isDigit :=
    fun _ => Decimal.isDigit_of_mem_padded
  have hvalue := Decimal.value_padded (k + 1) d.digits
  have hlength : k < (Decimal.padded (k + 1) d.digits).length := by
    rw [Decimal.padded, List.length_append, List.length_replicate]
    omega
  have htext : positional d =
      (Decimal.padded (k + 1) d.digits).take ((Decimal.padded (k + 1) d.digits).length - k) ++
        '.' :: (Decimal.padded (k + 1) d.digits).drop
          ((Decimal.padded (k + 1) d.digits).length - k) := by
    unfold positional
    dsimp only
    rw [hplaces, if_neg (by omega)]
    rfl
  generalize Decimal.padded (k + 1) d.digits = ds at hdigits hvalue hlength htext
  refine ⟨_, _, htext, ?_, ?_, ?_, ?_⟩
  · apply List.ne_nil_of_length_pos
    rw [List.length_take]
    omega
  · rwa [List.take_append_drop]
  · rwa [List.take_append_drop]
  · rw [List.length_drop]
    omega

/-- Positional notation opens with a digit. -/
theorem exists_cons_positional (d : ScaledDecimal) :
    ∃ c cs, positional d = c :: cs ∧ c.isDigit := by
  rcases lt_or_ge d.exponent 0 with hneg | hpos
  · obtain ⟨whole, places, htext, hne, hdigits, -, -⟩ := exists_positional_point hneg
    obtain ⟨c, cs, rfl⟩ := List.exists_cons_of_ne_nil hne
    exact ⟨c, cs ++ '.' :: places, htext, hdigits c List.mem_cons_self⟩
  · obtain ⟨c, cs, hcons, hdigit⟩ := Decimal.exists_cons_ofNat d.digits
    refine ⟨c, cs ++ List.replicate d.exponent.toNat '0', ?_, hdigit⟩
    rw [positional_whole hpos, hcons, List.cons_append]

/-- Positional notation is read as a decimal of the same value. -/
theorem exists_readDecimal_positional (d : ScaledDecimal) :
    ∃ read : ScaledDecimal, readDecimal (positional d) = some (read.digits, read.exponent) ∧
      read.value = d.value := by
  rcases lt_or_ge d.exponent 0 with hneg | hpos
  · obtain ⟨whole, places, htext, hne, hdigits, hvalue, hexponent⟩ := exists_positional_point hneg
    refine ⟨d, ?_, rfl⟩
    rw [htext, readDecimal_point hne (fun c hc => hdigits c (List.mem_append_left places hc))
      (fun c hc => hdigits c (List.mem_append_right whole hc)), hvalue, hexponent]
  · obtain ⟨n, hn⟩ := Int.eq_ofNat_of_zero_le hpos
    have hdigits : ∀ c ∈ Decimal.ofNat d.digits ++ List.replicate n '0', c.isDigit := by
      intro c hc
      rcases List.mem_append.1 hc with hc | hc
      · exact Decimal.isDigit_of_mem_ofNat hc
      · rw [List.eq_of_mem_replicate hc]
        rfl
    have hvalue : Decimal.value (Decimal.ofNat d.digits ++ List.replicate n '0') =
        d.digits * 10 ^ n := by
      rw [Decimal.value_append, List.length_replicate, Decimal.value, Decimal.value,
        Nat.ofDigitChars_replicate_zero, Nat.mul_zero, Nat.add_zero, Nat.mul_comm]
      exact congrArg (· * 10 ^ n) Nat.ofDigitChars_ten_toDigits
    refine ⟨⟨d.digits * 10 ^ n, 0⟩, ?_, ?_⟩
    · rw [positional_whole hpos, hn, Int.toNat_natCast, readDecimal_digits _ hdigits, hvalue]
      exact List.append_ne_nil_of_left_ne_nil Nat.toDigits_ne_nil _
    · simp [ScaledDecimal.value, hn]

/-! ### Reading a number back -/

variable {F : FloatFormat} {x : Binary F}

/-- A number is finite unless it is infinite or none. -/
theorem isFinite_iff : x.isFinite ↔ x.isNaN = false ∧ x.isInfinite = false := by
  unfold isNaN isInfinite bne
  cases x.isFinite <;> cases x.fraction.val == 0 <;> decide

/-- What is infinite is a number. -/
theorem not_isNaN_of_isInfinite (h : x.isInfinite) : ¬ x.isNaN := by
  unfold isInfinite at h
  unfold isNaN bne
  cases hfraction : x.fraction.val == 0 with
  | true => simp
  | false => simp [hfraction] at h

/-- There is one infinity of each sign. -/
theorem infinity_negative (h : x.isInfinite) : infinity x.negative = x := by
  have hmagnitude : x.magnitude = F.specialExponent * twoTo F.fractionBits := by
    simp only [isInfinite, isFinite, Bool.and_eq_true, Bool.not_eq_true', bne_eq_false_iff_eq,
      beq_iff_eq] at h
    rw [magnitude, h.1, h.2, Nat.add_zero]
  rw [infinity, ← hmagnitude, ofMagnitude_magnitude]

/-- Only zero has the significand zero. -/
theorem significand_pos (hx : x.isZero = false) : 0 < x.significand := by
  have hpow : 0 < twoTo F.fractionBits := twoTo_pos _
  rw [isZero, beq_eq_false_iff_ne, magnitude] at hx
  unfold significand
  split
  · rename_i hexponent
    rw [hexponent, Nat.zero_mul, Nat.zero_add] at hx
    exact Nat.pos_of_ne_zero hx
  · exact Nat.add_pos_left hpow _

/-- A minus in front of a text is split off, and nothing if there is no sign. -/
theorem splitSign_signed (negative : Bool) {c : Char} {cs : List Char} (hplus : c ≠ '+')
    (hminus : c ≠ '-') :
    splitSign (if negative then '-' :: c :: cs else c :: cs) = (negative, c :: cs) := by
  cases negative with
  | true => rfl
  | false => simp [splitSign, hplus, hminus]

/-- A digit opens neither a sign nor a word, so a text that begins with one is read as a decimal. -/
theorem parse_signed (negative : Bool) {cs : List Char} {digits : ℕ} {exponent : ℤ}
    (hhead : ∃ c rest, cs = c :: rest ∧ c.isDigit)
    (hread : readDecimal cs = some (digits, exponent)) :
    parse (if negative then '-' :: cs else cs) =
      .ok (ofDecimal (F := F) negative digits exponent) := by
  obtain ⟨c, rest, rfl, hdigit⟩ := hhead
  have hplus : c ≠ '+' := by
    rintro rfl
    cases hdigit
  have hminus : c ≠ '-' := by
    rintro rfl
    cases hdigit
  have hlower : c.toLower = c := by
    simp only [Char.isDigit, Bool.and_eq_true, decide_eq_true_eq] at hdigit
    apply dif_neg
    intro hupper
    have habsurd := UInt32.le_trans hupper.1 hdigit.2
    exact absurd habsurd (by decide)
  have hword (d : Char) (word : List Char) (hd : d.isDigit = false) :
      (c :: rest).map Char.toLower ≠ d :: word := by
    rw [List.map_cons, hlower]
    rintro heq
    rw [(List.cons.inj heq).1, hd] at hdigit
    cases hdigit
  have hne : (if negative then '-' :: c :: rest else c :: rest).isEmpty = false := by
    split <;> rfl
  simp only [parse, hne, splitSign_signed negative hplus hminus, hread, Bool.false_eq_true,
    if_false, hword 'i' _ rfl, hword 'n' _ rfl, or_self]

/-- The word for infinity is read with its sign. -/
theorem parse_inf (negative : Bool) :
    parse (if negative then ['-', 'i', 'n', 'f'] else ['i', 'n', 'f']) =
      .ok (infinity (F := F) negative) := by
  cases negative <;> rfl

/-- The text of a number is read as that number. -/
theorem parse_display (hx : x.isNaN = false) : parse x.display = .ok x := by
  unfold display
  rw [hx, if_neg Bool.false_ne_true]
  dsimp only
  cases hinfinite : x.isInfinite with
  | true => rw [if_pos rfl, parse_inf, infinity_negative hinfinite]
  | false =>
    have hfinite : x.isFinite := isFinite_iff.2 ⟨hx, hinfinite⟩
    rw [if_neg Bool.false_ne_true]
    cases hzero : x.isZero with
    | true =>
      have hmagnitude : x.magnitude = 0 := beq_iff_eq.1 hzero
      rw [if_pos rfl, parse_signed x.negative ⟨'0', [], rfl, rfl⟩ rfl]
      show Except.ok (ofMagnitude x.negative 0) = _
      rw [← hmagnitude, ofMagnitude_magnitude]
    | false =>
      have hpos := significand_pos hzero
      obtain ⟨read, hread, hvalue⟩ := exists_readDecimal_positional (x.shortest .up)
      rw [if_neg Bool.false_ne_true,
        parse_signed x.negative (exists_cons_positional (x.shortest .up)) hread,
        ofDecimal_eq hfinite hpos]
      rw [hvalue]
      exact takes_shortest hpos .up

end Binary

end SqlBinding.Numeric
