import SqlBinding.Proofs.Time.Exchange

/-!
# The arithmetic of offsets

An offset is added up in 32-bit words, and only the result is held to the range of offsets. Each
part of its text may be any number that such a word holds, so products and sums may leave the word,
and the program stops at the first one that does. Arithmetic that is not checked wraps around
instead; it is defined here for comparison (`sumOffsetWrapping`, `readOffsetWrapping`), and what it
comes to is always the exact sum modulo the size of a word. Both come to the same exactly if nothing
leaves a word (`OffsetInWord`).
-/

set_option autoImplicit false

namespace SqlBinding.Time

open Numeric

/-! ### Wrapping around -/

/-- A number as a 32-bit word holds it. -/
def word32 (n : Int) : Int := Int.bmod n (twoTo 32)

/-- What a word holds fits a word. -/
theorem inWord_word32 (n : Int) : InWord (word32 n) := by
  have hsize : ((twoTo 32 : Nat) : Int) = 4294967296 := rfl
  have hlow := Int.le_bmod (x := n) (m := twoTo 32) (by decide)
  have hhigh := Int.bmod_lt (x := n) (m := twoTo 32) (by decide)
  rw [inWord_iff]
  unfold word32
  omega

/-- A word holds what fits it as it is. -/
theorem word32_eq_of_inWord {n : Int} (h : InWord n) : word32 n = n := by
  rw [inWord_iff] at h
  have hword : (twoTo 32 : Int) = 2 ^ 32 := rfl
  apply Int.bmod_eq_of_le
  · omega
  · omega

/-- A second summand may wrap around before it is added or after. -/
theorem word32_add_word32 (m n : Int) : word32 (m + word32 n) = word32 (m + n) :=
  Int.add_bmod_bmod

/-- A first summand may wrap around before it is added to or after. -/
theorem word32_word32_add (m n : Int) : word32 (word32 m + n) = word32 (m + n) :=
  Int.bmod_add_bmod

/-- A number may wrap around before its sign is changed or after. -/
theorem word32_neg_word32 (n : Int) : word32 (-word32 n) = word32 (-n) := by
  have hsub : word32 (0 - word32 n) = word32 (0 - n) := Int.sub_bmod_bmod
  rwa [Int.zero_sub, Int.zero_sub] at hsub

/-- Adds up the parts of an offset as `sumOffset` does, but wraps around where that stops. -/
def sumOffsetWrapping : Int → List Int → List (List Char) → Option Int
  | total, scale :: scales, part :: parts => do
    let n ← (IntKind.i32.parse part).toOption
    sumOffsetWrapping (word32 (total + word32 (n.val * scale))) scales parts
  | total, _, _ => some total

/-- Reads the parts of an offset behind its sign as `readSignedOffset` does, but wraps around where
that stops. -/
def readOffsetWrapping (negative : Bool) (cs : List Char) : Option Offset := do
  let total ← sumOffsetWrapping 0 [3600, 60, 1] (splitAll ':' cs)
  Offset.ofSeconds? (word32 (if negative then -total else total))

/-! ### Exact sums -/

/-- The numbers that the parts of an offset stand for, as far as there are scales for them. -/
def partNumbers? : List Int → List (List Char) → Option (List Int)
  | _ :: scales, part :: parts => do
    let n ← (IntKind.i32.parse part).toOption
    let numbers ← partNumbers? scales parts
    return n.val :: numbers
  | _, _ => some []

/-- The exact sum of numbers, each multiplied by its scale. -/
def weightedSum : List Int → List Int → Int
  | scale :: scales, n :: numbers => n * scale + weightedSum scales numbers
  | _, _ => 0

/-- Whether no product and no sum leaves a word while numbers are added up on top of a total. -/
def SumsInWord : Int → List Int → List Int → Prop
  | total, scale :: scales, n :: numbers =>
    InWord (n * scale) ∧ InWord (total + n * scale) ∧ SumsInWord (total + n * scale) scales numbers
  | _, _, _ => True

/-- The greatest magnitude that a sum of numbers, each multiplied by its scale, could have. -/
def reach : List Int → List Int → Nat
  | scale :: scales, n :: numbers => (n * scale).natAbs + reach scales numbers
  | _, _ => 0

section

variable {scales numbers : List Int} {parts : List (List Char)} {total : Int}

/-- Parts stand for numbers if the first one does and the others do. -/
theorem partNumbers?_cons_eq_some_iff {scale : Int} {part : List Char} :
    partNumbers? (scale :: scales) (part :: parts) = some numbers ↔
      ∃ n rest, (IntKind.i32.parse part).toOption = some n ∧
        partNumbers? scales parts = some rest ∧ numbers = n.val :: rest := by
  simp only [partNumbers?, Option.bind_eq_bind, Option.bind_eq_some_iff, Option.pure_def,
    Option.some.injEq, eq_comm (a := numbers)]
  constructor
  · rintro ⟨n, hn, rest, hrest, heq⟩
    exact ⟨n, rest, hn, hrest, heq⟩
  · rintro ⟨n, rest, hn, hrest, heq⟩
    exact ⟨n, hn, rest, hrest, heq⟩

/-- The sum of no numbers is zero. -/
theorem weightedSum_nil : weightedSum scales [] = 0 := by cases scales <;> rfl

/-- The first number is added with its scale. -/
theorem weightedSum_cons (scale n : Int) :
    weightedSum (scale :: scales) (n :: numbers) = n * scale + weightedSum scales numbers := rfl

/-- What words come to is the exact sum modulo the size of a word. -/
theorem sumOffsetWrapping_eq (htotal : InWord total)
    (h : partNumbers? scales parts = some numbers) :
    sumOffsetWrapping total scales parts = some (word32 (total + weightedSum scales numbers)) := by
  induction scales generalizing total parts numbers with
  | nil =>
    cases h
    rw [weightedSum_nil, Int.add_zero, word32_eq_of_inWord htotal]
    simp only [sumOffsetWrapping]
  | cons scale scales ih =>
    cases parts with
    | nil =>
      cases h
      rw [weightedSum_nil, Int.add_zero, word32_eq_of_inWord htotal]
      rfl
    | cons part parts =>
      obtain ⟨n, rest, hn, hrest, rfl⟩ := partNumbers?_cons_eq_some_iff.1 h
      have hstep := ih (inWord_word32 (total + word32 (n.val * scale))) hrest
      rw [word32_add_word32, word32_word32_add] at hstep
      simp only [sumOffsetWrapping, hn, Option.bind_eq_bind, Option.bind_some, word32_add_word32,
        hstep, weightedSum_cons, Int.add_assoc]

/-- The sum is exact if nothing leaves a word, and the program stops otherwise. -/
theorem sumOffset_eq (h : partNumbers? scales parts = some numbers) (total : Int) :
    (SumsInWord total scales numbers →
      sumOffset total scales parts = .ok (total + weightedSum scales numbers)) ∧
    (¬ SumsInWord total scales numbers → sumOffset total scales parts = .error .overflow) := by
  induction scales generalizing total parts numbers with
  | nil =>
    cases h
    rw [weightedSum_nil, Int.add_zero, sumOffset]
    · exact ⟨fun _ => rfl, fun hleaves => absurd trivial hleaves⟩
    · rintro _ _ _ _ ⟨⟩
  | cons scale scales ih =>
    cases parts with
    | nil =>
      cases h
      rw [weightedSum_nil, Int.add_zero]
      exact ⟨fun _ => rfl, fun hleaves => absurd trivial hleaves⟩
    | cons part parts =>
      obtain ⟨n, rest, hn, hrest, rfl⟩ := partNumbers?_cons_eq_some_iff.1 h
      rw [SumsInWord, sumOffset, hn, found, Outcome.ok_bind]
      -- Both checks of the first part are among what `SumsInWord` asks for; behind them the sum goes
      -- on from the new total.
      by_cases hproduct : InWord (n.val * scale)
      · rw [checkWord_of_inWord hproduct, Outcome.ok_bind]
        by_cases hsum : InWord (total + n.val * scale)
        · have hstep := ih hrest (total + n.val * scale)
          rw [checkWord_of_inWord hsum, Outcome.ok_bind, weightedSum_cons, ← Int.add_assoc]
          exact ⟨fun h => hstep.1 h.2.2, fun h => hstep.2 fun hrest => h ⟨hproduct, hsum, hrest⟩⟩
        · rw [checkWord_of_not_inWord hsum, Outcome.error_bind]
          exact ⟨fun h => absurd h.2.1 hsum, fun _ => rfl⟩
      · rw [checkWord_of_not_inWord hproduct, Outcome.error_bind]
        exact ⟨fun h => absurd h.1 hproduct, fun _ => rfl⟩

/-- Numbers that together cannot reach the end of a word never leave it. -/
theorem sumsInWord_of_reach (h : total.natAbs + reach scales numbers < 2 ^ 31) :
    SumsInWord total scales numbers := by
  induction scales generalizing total numbers with
  | nil => cases numbers <;> exact trivial
  | cons scale scales ih =>
    cases numbers with
    | nil => exact trivial
    | cons n numbers =>
      have hreach : reach (scale :: scales) (n :: numbers) =
          (n * scale).natAbs + reach scales numbers := rfl
      rw [hreach] at h
      rw [SumsInWord]
      generalize n * scale = product at h
      refine ⟨inWord_of_natAbs_lt ?_, inWord_of_natAbs_lt ?_, ih ?_⟩
      · omega
      · omega
      · omega

/-- A sum has at most the greatest magnitude that it could have. -/
theorem natAbs_weightedSum_le (scales numbers : List Int) :
    (weightedSum scales numbers).natAbs ≤ reach scales numbers := by
  induction scales generalizing numbers with
  | nil => cases numbers <;> exact Nat.le_refl 0
  | cons scale scales ih =>
    cases numbers with
    | nil => exact Nat.le_refl 0
    | cons n numbers =>
      calc (n * scale + weightedSum scales numbers).natAbs
          ≤ (n * scale).natAbs + (weightedSum scales numbers).natAbs := Int.natAbs_add_le _ _
        _ ≤ (n * scale).natAbs + reach scales numbers := Nat.add_le_add_left (ih numbers) _

end

/-! ### Offsets -/

/-- The exact number of seconds that hours, minutes and seconds behind a sign stand for. -/
def signedSeconds (negative : Bool) (numbers : List Int) : Int :=
  if negative then -weightedSum [3600, 60, 1] numbers else weightedSum [3600, 60, 1] numbers

/-- Whether no product, no sum and not the result with its sign leaves a word. -/
def OffsetInWord (negative : Bool) (numbers : List Int) : Prop :=
  SumsInWord 0 [3600, 60, 1] numbers ∧ InWord (signedSeconds negative numbers)

section

variable {rest : List Char} {numbers : List Int}

/-- Without checks, parts behind a sign are read as their exact sum modulo the size of a word. -/
theorem readOffsetWrapping_eq (h : partNumbers? [3600, 60, 1] (splitAll ':' rest) = some numbers)
    (negative : Bool) :
    readOffsetWrapping negative rest =
      Offset.ofSeconds? (word32 (signedSeconds negative numbers)) := by
  have hzero : InWord 0 := by decide
  have hsum := sumOffsetWrapping_eq hzero h
  rw [Int.zero_add] at hsum
  rw [readOffsetWrapping, hsum, Option.bind_eq_bind, Option.bind_some]
  cases negative with
  | false => exact congrArg Offset.ofSeconds? (word32_eq_of_inWord (inWord_word32 _))
  | true => exact congrArg Offset.ofSeconds? (word32_neg_word32 _)

/-- The parts behind a sign are read as their exact sum if nothing leaves a word, and the program
stops otherwise. -/
theorem readExchangeOffset_eq (h : partNumbers? [3600, 60, 1] (splitAll ':' rest) = some numbers)
    (negative : Bool) :
    (OffsetInWord negative numbers →
      readExchangeOffset ((if negative then '-' else '+') :: rest) =
        found (Offset.ofSeconds? (signedSeconds negative numbers))) ∧
    (¬ OffsetInWord negative numbers →
      readExchangeOffset ((if negative then '-' else '+') :: rest) = .error .overflow) := by
  have hsigned : readExchangeOffset ((if negative then '-' else '+') :: rest) =
      readSignedOffset negative rest := by cases negative <;> rfl
  obtain ⟨hfits, hleaves⟩ := sumOffset_eq h 0
  rw [Int.zero_add] at hfits
  rw [hsigned, readSignedOffset, OffsetInWord]
  by_cases hsums : SumsInWord 0 [3600, 60, 1] numbers
  · rw [hfits hsums, Outcome.ok_bind]
    change (_ → (checkWord (signedSeconds negative numbers) >>= fun seconds =>
        found (Offset.ofSeconds? seconds)) = _) ∧
      (_ → (checkWord (signedSeconds negative numbers) >>= fun seconds =>
        found (Offset.ofSeconds? seconds)) = _)
    by_cases hword : InWord (signedSeconds negative numbers)
    · rw [checkWord_of_inWord hword, Outcome.ok_bind]
      exact ⟨fun _ => rfl, fun h => absurd ⟨hsums, hword⟩ h⟩
    · rw [checkWord_of_not_inWord hword, Outcome.error_bind]
      exact ⟨fun h => absurd h.2 hword, fun _ => rfl⟩
  · rw [hleaves hsums, Outcome.error_bind]
    exact ⟨fun h => absurd h.1 hsums, fun _ => rfl⟩

end

/-- What is not there is no overflow. -/
theorem found_ne_overflow {α : Type} (x : Option α) : found x ≠ .error .overflow := by
  cases x with
  | none => exact fun h => nomatch h
  | some a => exact fun h => nomatch h

/-- The reading of a text is stopped by its offset alone, once the numbers of its date and its clock
have been read and whatever their ranges are. -/
theorem Timestamp.ofExchange_eq_overflow_iff {cs : List Char} :
    ofExchange cs = .error .overflow ↔
      ∃ dateText rest date clock, splitOnce? ' ' (stripEra cs).1 = some (dateText, rest) ∧
        readExchangeDate dateText = some date ∧
        readExchangeClock (splitBefore (fun c => c == 'Z' || c == '+' || c == '-') rest).1 =
          some clock ∧
        readExchangeOffset (splitBefore (fun c => c == 'Z' || c == '+' || c == '-') rest).2 =
          .error .overflow := by
  unfold ofExchange
  constructor
  · intro h
    rcases Outcome.bind_eq_error_iff.1 h with h | ⟨⟨dateText, rest⟩, hspace, h⟩
    · exact absurd h (found_ne_overflow _)
    rcases Outcome.bind_eq_error_iff.1 h with h | ⟨date, hdate, h⟩
    · exact absurd h (found_ne_overflow _)
    rcases Outcome.bind_eq_error_iff.1 h with h | ⟨clock, hclock, h⟩
    · exact absurd h (found_ne_overflow _)
    rcases Outcome.bind_eq_error_iff.1 h with h | ⟨offset, hoffset, h⟩
    · exact ⟨dateText, rest, date, clock, found_eq_ok_iff.1 hspace, found_eq_ok_iff.1 hdate,
        found_eq_ok_iff.1 hclock, h⟩
    -- Behind the offset, only ranges are looked at.
    rcases Outcome.bind_eq_error_iff.1 h with h | ⟨day, -, h⟩
    · exact absurd h (found_ne_overflow _)
    rcases Outcome.bind_eq_error_iff.1 h with h | ⟨time, -, h⟩
    · exact absurd h (found_ne_overflow _)
    · exact absurd h (found_ne_overflow _)
  · rintro ⟨dateText, rest, date, clock, hspace, hdate, hclock, hoffset⟩
    simp only [hspace, hdate, hclock, hoffset, found, Outcome.ok_bind, Outcome.error_bind]

/-- An offset made from a number of seconds has that many. -/
theorem Offset.seconds_of_ofSeconds? {n : Int} {o : Offset} (h : ofSeconds? n = some o) :
    o.seconds = n := by
  unfold ofSeconds? at h
  split at h
  · cases h
    rfl
  · cases h

/-- Parts behind a sign that each fit a word are read as their exact sum, which must be less than a
day, if no product, no sum and not the signed result leaves a word, and wrapping around would make
no difference; this is so whenever the parts could not reach the end of a word. Otherwise the
program stops, where wrapping around would come to the exact sum modulo the size of a word. So an
offset that is accepted is the exact sum, and one that is accepted after wrapping around only if
that sum is less than a day. -/
theorem offset_exact_unless_overflow (negative : Bool) {rest : List Char} {numbers : List Int}
    (h : partNumbers? [3600, 60, 1] (splitAll ':' rest) = some numbers) :
    let read := readExchangeOffset ((if negative then '-' else '+') :: rest)
    let wrapped := readOffsetWrapping negative rest
    let exact := signedSeconds negative numbers
    (OffsetInWord negative numbers →
      read = found (Offset.ofSeconds? exact) ∧ wrapped = Offset.ofSeconds? exact) ∧
    (¬ OffsetInWord negative numbers →
      read = .error .overflow ∧ wrapped = Offset.ofSeconds? (word32 exact)) ∧
    (∀ o, read = .ok o → o.seconds = exact) ∧
    (∀ o, wrapped = some o → (o.seconds = exact ↔ exact.natAbs < secondsPerDay)) ∧
    (reach [3600, 60, 1] numbers < 2 ^ 31 → OffsetInWord negative numbers) := by
  intro read wrapped exact
  obtain ⟨hfits, hleaves⟩ := readExchangeOffset_eq h negative
  have hwrapped : wrapped = Offset.ofSeconds? (word32 exact) := readOffsetWrapping_eq h negative
  refine ⟨fun hword => ⟨hfits hword, ?_⟩, fun hword => ⟨hleaves hword, hwrapped⟩, fun o ho => ?_,
    fun o ho => ?_, fun hreach => ?_⟩
  · rw [hwrapped, word32_eq_of_inWord hword.2]
  · by_cases hword : OffsetInWord negative numbers
    · have hread := (hfits hword).symm.trans ho
      exact Offset.seconds_of_ofSeconds? (found_eq_ok_iff.1 hread)
    · cases (hleaves hword).symm.trans ho
  · have hseconds : o.seconds = word32 exact :=
      Offset.seconds_of_ofSeconds? (hwrapped.symm.trans ho)
    have hmin := o.gt_min
    have hmax := o.lt_max
    constructor
    · intro heq
      omega
    · intro hday
      have hword : InWord exact := by
        apply inWord_of_natAbs_lt
        simp only [secondsPerDay] at hday
        omega
      rw [hseconds, word32_eq_of_inWord hword]
  · have hsum := natAbs_weightedSum_le [3600, 60, 1] numbers
    refine ⟨sumsInWord_of_reach (by rwa [Int.natAbs_zero, Nat.zero_add]), ?_⟩
    apply inWord_of_natAbs_lt
    unfold signedSeconds
    split
    · omega
    · omega

/-- An offset of five hours and a half to the west, which stays far from the end of a word. -/
theorem offset_exact_half_hour :
    partNumbers? [3600, 60, 1] (splitAll ':' "05:30".toList) = some [5, 30] ∧
      reach [3600, 60, 1] [5, 30] < 2 ^ 31 ∧ OffsetInWord true [5, 30] ∧
      readExchangeOffset "-05:30".toList = found (Offset.ofSeconds? (-19800)) ∧
      readOffsetWrapping true "05:30".toList = Offset.ofSeconds? (-19800) ∧
      ∀ o, readExchangeOffset "-05:30".toList = .ok o → o.seconds = -19800 := by
  have hparts : partNumbers? [3600, 60, 1] (splitAll ':' "05:30".toList) = some [5, 30] := by rfl
  have hreach : reach [3600, 60, 1] [5, 30] < 2 ^ 31 := by decide
  obtain ⟨hfits, -, hexact, -, hsmall⟩ := offset_exact_unless_overflow true hparts
  have hword := hsmall hreach
  exact ⟨hparts, hreach, hword, (hfits hword).1, (hfits hword).2, hexact⟩

/-- Parts whose exact sum is the size of a word stop the program, and with them the reading of the
whole text. Wrapping around would take them for no offset at all. -/
theorem offset_overflows_at_word_size :
    Timestamp.ofExchange "2024-03-14 15:09:26+1193046:28:16".toList = .error .overflow ∧
      ¬ ∀ (negative : Bool) (rest : List Char) (numbers : List Int),
        partNumbers? [3600, 60, 1] (splitAll ':' rest) = some numbers →
          OffsetInWord negative numbers ∧
          readExchangeOffset ((if negative then '-' else '+') :: rest) =
            found (readOffsetWrapping negative rest) ∧
          ∀ o, readOffsetWrapping negative rest = some o →
            o.seconds = signedSeconds negative numbers := by
  refine ⟨by decide +kernel, fun hall => ?_⟩
  have hparts : partNumbers? [3600, 60, 1] (splitAll ':' "1193046:28:16".toList) =
      some [1193046, 28, 16] := by rfl
  have hwrapped : readOffsetWrapping false "1193046:28:16".toList = some .utc := by decide +kernel
  obtain ⟨-, -, hexact⟩ := hall false _ _ hparts
  exact absurd (hexact .utc hwrapped) (by decide)

end SqlBinding.Time
