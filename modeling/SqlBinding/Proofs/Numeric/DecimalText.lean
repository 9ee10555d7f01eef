import Mathlib.Algebra.Group.Nat.Defs
import SqlBinding.Numeric.Integer
import SqlBinding.Numeric.Binary.Shortest

/-!
# Decimal text of numbers

Which characters the decimal text of a number is made of, and that the text of an integer is read as
that integer by the types that hold it, and by no other.
-/

set_option autoImplicit false

namespace SqlBinding.Numeric

/-- Whether a character occurs in the decimal text of finite numbers. -/
def isNumeral (c : Char) : Bool := c.isDigit || c == '-' || c == '.'

/-- Digits occur in the text of numbers. -/
theorem isNumeral_of_isDigit {c : Char} (h : c.isDigit) : isNumeral c := by simp [isNumeral, h]

namespace Decimal

/-- A natural number is written in digits. -/
theorem isDigit_of_mem_ofNat {n : Nat} {c : Char} (h : c ∈ ofNat n) : c.isDigit :=
  Nat.isDigit_of_mem_toDigits (by decide) (by decide) h

/-- An integer is written in the characters of numbers. -/
theorem isNumeral_of_mem_ofInt {n : Int} {c : Char} (h : c ∈ ofInt n) : isNumeral c := by
  unfold ofInt at h
  split at h
  · rcases List.mem_cons.1 h with rfl | h
    · rfl
    · exact isNumeral_of_isDigit (isDigit_of_mem_ofNat h)
  · exact isNumeral_of_isDigit (isDigit_of_mem_ofNat h)

/-- The text of a natural number begins with a digit. -/
theorem exists_cons_ofNat (n : Nat) : ∃ c cs, ofNat n = c :: cs ∧ c.isDigit := by
  cases hdigits : ofNat n with
  | nil => exact absurd hdigits Nat.toDigits_ne_nil
  | cons c cs => exact ⟨c, cs, rfl, isDigit_of_mem_ofNat (n := n) (by simp [hdigits])⟩

/-! ### Digits of a least width -/

/-- A number filled up with zeros is written in digits. -/
theorem isDigit_of_mem_padded {width n : Nat} {c : Char} (h : c ∈ padded width n) : c.isDigit := by
  rcases List.mem_append.1 h with h | h
  · rw [List.eq_of_mem_replicate h]
    rfl
  · exact isDigit_of_mem_ofNat h

/-- What holds of all digits holds of all characters of a number filled up with zeros. -/
theorem forall_mem_padded {p : Char → Prop} (hdigit : ∀ c, c.isDigit → p c) (width n : Nat) :
    ∀ c ∈ padded width n, p c := fun c hc => hdigit c (isDigit_of_mem_padded hc)

/-- A number filled up with zeros has digits. -/
theorem padded_ne_nil (width n : Nat) : padded width n ≠ [] :=
  List.append_ne_nil_of_right_ne_nil _ Nat.toDigits_ne_nil

/-- A number filled up with zeros begins with a digit. -/
theorem exists_cons_padded (width n : Nat) :
    ∃ c cs, padded width n = c :: cs ∧ c.isDigit := by
  obtain ⟨c, cs, hcons⟩ := List.exists_cons_of_ne_nil (padded_ne_nil width n)
  exact ⟨c, cs, hcons, isDigit_of_mem_padded (by rw [hcons]; exact List.mem_cons_self)⟩

/-- Zeros in front of a number do not change it. -/
theorem value_padded (width n : Nat) : value (padded width n) = n := by
  rw [value, padded, Nat.ofDigitChars_append, Nat.ofDigitChars_replicate_zero, Nat.mul_zero]
  exact Nat.ofDigitChars_ten_toDigits

/-- A number that fits a width has that width when it is filled up. -/
theorem length_padded {width n : Nat} (hwidth : 0 < width) (h : n < 10 ^ width) :
    (padded width n).length = width := by
  have hdigits : (ofNat n).length ≤ width :=
    (Nat.length_toDigits_le_iff (by decide) hwidth).2 h
  rw [padded, List.length_append, List.length_replicate]
  omega

/-- A number that does not fit a width is wider when it is written. -/
theorem lt_length_padded {width n : Nat} (hwidth : 0 < width) (h : 10 ^ width ≤ n) :
    width < (padded width n).length := by
  have hdigits : ¬ (ofNat n).length ≤ width := fun hle =>
    absurd ((Nat.length_toDigits_le_iff (by decide) hwidth).1 hle) (Nat.not_lt.2 h)
  rw [padded, List.length_append, List.length_replicate]
  omega

/-- Digits behind others shift them by as many places. -/
theorem value_append (cs ds : List Char) :
    value (cs ++ ds) = 10 ^ ds.length * value cs + value ds := by
  rw [value, Nat.ofDigitChars_append, Nat.ofDigitChars_eq_ofDigitChars_zero]
  rfl

/-- Digits stand for a number below the power of ten with their count. -/
theorem value_lt {cs : List Char} (h : ∀ c ∈ cs, c.isDigit) : value cs < 10 ^ cs.length := by
  induction cs with
  | nil => decide
  | cons c cs ih =>
    have hdigit : value [c] + 1 ≤ 10 := by
      have hc := h c List.mem_cons_self
      simp only [Char.isDigit, Bool.and_eq_true, decide_eq_true_eq] at hc
      have hcode : c.toNat ≤ 57 := hc.2
      show 10 * 0 + (c.toNat - 48) + 1 ≤ 10
      omega
    have htail := ih fun d hd => h d (List.mem_cons_of_mem c hd)
    have hcons : value (c :: cs) = 10 ^ cs.length * value [c] + value cs := value_append [c] cs
    calc value (c :: cs) = 10 ^ cs.length * value [c] + value cs := hcons
      _ < 10 ^ cs.length * value [c] + 10 ^ cs.length := Nat.add_lt_add_left htail _
      _ = 10 ^ cs.length * (value [c] + 1) := (Nat.mul_succ _ _).symm
      _ ≤ 10 ^ cs.length * 10 := Nat.mul_le_mul_left _ hdigit
      _ = 10 ^ (c :: cs).length := (Nat.pow_succ 10 cs.length).symm

end Decimal

/-- Reading on never makes a number smaller. -/
theorem le_ofDigitChars (acc : Nat) (cs : List Char) : acc ≤ Nat.ofDigitChars 10 cs acc := by
  rw [Nat.ofDigitChars_eq_ofDigitChars_zero]
  have hpow : 1 ≤ 10 ^ cs.length := Nat.one_le_pow _ _ (by decide)
  calc acc = 1 * acc := (Nat.one_mul acc).symm
    _ ≤ 10 ^ cs.length * acc := Nat.mul_le_mul_right acc hpow
    _ ≤ 10 ^ cs.length * acc + Nat.ofDigitChars 10 cs 0 := Nat.le_add_right _ _

/-- Digits are read as the number they spell, if it stays within the limit. -/
theorem readMagnitude_eq {limit : Nat} {beyond : IntegerFault} {cs : List Char} {acc : Nat}
    (h : acc ≤ limit) (hdigits : ∀ c ∈ cs, c.isDigit) (hfit : Nat.ofDigitChars 10 cs acc ≤ limit) :
    readMagnitude limit beyond acc h cs = .ok ⟨Nat.ofDigitChars 10 cs acc, hfit⟩ := by
  induction cs generalizing acc with
  | nil => rfl
  | cons c cs ih =>
    have hdigit : digit? c = some (c.toNat - '0'.toNat) := by
      rw [digit?, if_pos (hdigits c (by simp))]
    have hstep : 10 * acc + (c.toNat - '0'.toNat) ≤ limit := by
      rw [Nat.ofDigitChars_cons] at hfit
      exact Nat.le_trans (le_ofDigitChars _ cs) hfit
    simp only [readMagnitude, hdigit, dif_pos hstep]
    exact ih hstep (fun c hc => hdigits c (by simp [hc])) hfit

/-- A magnitude within the limit is read back from its digits. -/
theorem readMagnitude_ofNat {limit n : Nat} {beyond : IntegerFault} (hn : n ≤ limit) :
    readMagnitude limit beyond 0 (Nat.zero_le _) (Decimal.ofNat n) = .ok ⟨n, hn⟩ := by
  have hvalue : Nat.ofDigitChars 10 (Decimal.ofNat n) 0 = n := Nat.ofDigitChars_ten_toDigits
  have hfit : Nat.ofDigitChars 10 (Decimal.ofNat n) 0 ≤ limit := by
    rw [hvalue]
    exact hn
  rw [readMagnitude_eq _ (fun c hc => Decimal.isDigit_of_mem_ofNat hc) hfit]
  simp [hvalue]

/-- Digits of a number beyond the limit are refused. -/
theorem readMagnitude_beyond {limit : Nat} {beyond : IntegerFault} {cs : List Char} {acc : Nat}
    (h : acc ≤ limit) (hdigits : ∀ c ∈ cs, c.isDigit)
    (hbeyond : limit < Nat.ofDigitChars 10 cs acc) :
    readMagnitude limit beyond acc h cs = .error beyond := by
  induction cs generalizing acc with
  | nil => exact absurd h (Nat.not_le.2 hbeyond)
  | cons c cs ih =>
    have hdigit : digit? c = some (c.toNat - '0'.toNat) := by
      rw [digit?, if_pos (hdigits c List.mem_cons_self)]
    simp only [readMagnitude, hdigit]
    split
    · rename_i hstep
      rw [Nat.ofDigitChars_cons] at hbeyond
      exact ih hstep (fun d hd => hdigits d (List.mem_cons_of_mem c hd)) hbeyond
    · rfl

/-- A magnitude beyond the limit is refused on the way, for that reason. -/
theorem readMagnitude_ofNat_beyond {limit n : Nat} {beyond : IntegerFault} (hn : limit < n) :
    readMagnitude limit beyond 0 (Nat.zero_le _) (Decimal.ofNat n) = .error beyond := by
  have hvalue : Nat.ofDigitChars 10 (Decimal.ofNat n) 0 = n := Nat.ofDigitChars_ten_toDigits
  apply readMagnitude_beyond _ fun c hc => Decimal.isDigit_of_mem_ofNat hc
  rwa [hvalue]

namespace IntKind

/-- Whether a number lies in the range of the type. -/
def Holds (k : IntKind) (n : Int) : Prop := -(k.minMagnitude : Int) ≤ n ∧ n ≤ (k.maxNat : Int)

instance (k : IntKind) (n : Int) : Decidable (k.Holds n) :=
  inferInstanceAs (Decidable (_ ∧ _))

/-- An integer type has every number in its range. -/
theorem ofInt?_of_holds {k : IntKind} {n : Int} (h : k.Holds n) :
    k.ofInt? n = some ⟨n, h.1, h.2⟩ := dif_pos h

/-- An integer type has no number outside its range. -/
theorem ofInt?_of_not_holds {k : IntKind} {n : Int} (h : ¬ k.Holds n) : k.ofInt? n = none :=
  dif_neg h

/-- The value of an integer type that a number has is that number. -/
theorem ofInt?_eq_some_iff {k : IntKind} {n : Int} {v : k.Val} :
    k.ofInt? n = some v ↔ v.val = n := by
  unfold ofInt?
  constructor
  · intro h
    split at h
    · cases h
      rfl
    · cases h
  · rintro rfl
    rw [dif_pos ⟨v.ge_min, v.le_max⟩]

/-- Digits without a sign are read as a positive number. -/
theorem parse_digits (k : IntKind) {c : Char} {cs : List Char} (h : c.isDigit) :
    k.parse (c :: cs) = k.parsePositive (c :: cs) := by
  have hplus : c ≠ '+' := by
    rintro rfl
    cases h
  have hminus : c ≠ '-' := by
    rintro rfl
    cases h
  simp [parse, hplus, hminus]

/-- A signed type reads what stands behind a minus as a magnitude below zero. -/
theorem parse_minus {k : IntKind} (h : k.signed) (c : Char) (cs : List Char) :
    k.parse ('-' :: c :: cs) = k.parseNegative (c :: cs) := by
  simp [parse, h]

/-- A type with a negative value is signed. -/
theorem signed_of_neg {k : IntKind} (n : k.Val) (h : n.val < 0) : k.signed := by
  cases hsigned : k.signed with
  | true => rfl
  | false =>
    have hmin := n.ge_min
    rw [minMagnitude, hsigned, if_neg Bool.false_ne_true] at hmin
    omega

/-- Digits are read as the number they spell, if it lies in range. -/
theorem exists_parse_eq_ok {k : IntKind} {cs : List Char} (hne : cs ≠ [])
    (hdigits : ∀ c ∈ cs, c.isDigit) (hfit : Decimal.value cs ≤ k.maxNat) :
    ∃ v, k.parse cs = .ok v ∧ v.val = Decimal.value cs := by
  obtain ⟨c, cs, rfl⟩ := List.exists_cons_of_ne_nil hne
  rw [parse_digits k (hdigits c List.mem_cons_self), parsePositive,
    readMagnitude_eq (Nat.zero_le k.maxNat) hdigits hfit]
  exact ⟨_, rfl, rfl⟩

/-- A natural number in the range of a type is read back however far it is filled up. -/
theorem exists_parse_padded {k : IntKind} {n : Nat} (width : Nat) (h : n ≤ k.maxNat) :
    ∃ v, k.parse (Decimal.padded width n) = .ok v ∧ v.val = n := by
  have hvalue := Decimal.value_padded width n
  have hread := exists_parse_eq_ok (k := k) (Decimal.padded_ne_nil width n)
    (fun _ => Decimal.isDigit_of_mem_padded) (by rwa [hvalue])
  rwa [hvalue] at hread

/-- The text of a bounded integer is read as that integer. -/
theorem parse_text {k : IntKind} (n : k.Val) : k.parse n.text = .ok n := by
  obtain ⟨c, cs, hdigits, hdigit⟩ := Decimal.exists_cons_ofNat n.val.natAbs
  have hmin := n.ge_min
  have hmax := n.le_max
  by_cases hneg : n.val < 0
  · have hfit : n.val.natAbs ≤ k.minMagnitude := by omega
    have hread : readMagnitude k.minMagnitude .tooSmall 0 (Nat.zero_le _)
        (Decimal.ofNat n.val.natAbs) = .ok ⟨n.val.natAbs, hfit⟩ := readMagnitude_ofNat hfit
    rw [hdigits] at hread
    rw [Val.text, Decimal.ofInt, if_pos hneg, hdigits, parse_minus (signed_of_neg n hneg)]
    have hval : -(n.val.natAbs : Int) = n.val := by omega
    simp only [parseNegative, hread, Except.map, hval]
  · have hfit : n.val.natAbs ≤ k.maxNat := by omega
    have hread : readMagnitude k.maxNat .tooLarge 0 (Nat.zero_le _)
        (Decimal.ofNat n.val.natAbs) = .ok ⟨n.val.natAbs, hfit⟩ := readMagnitude_ofNat hfit
    rw [hdigits] at hread
    rw [Val.text, Decimal.ofInt, if_neg hneg, hdigits, parse_digits k hdigit]
    have hval : (n.val.natAbs : Int) = n.val := by omega
    simp only [parsePositive, hread, Except.map, hval]

/-- A number in the range of a type is read back from its text. -/
theorem parse_ofInt {k : IntKind} {n : Int} (h : k.Holds n) :
    k.parse (Decimal.ofInt n) = .ok ⟨n, h.1, h.2⟩ :=
  parse_text (⟨n, h.1, h.2⟩ : k.Val)

/-- The decimal text of a number that is out of range is refused: its digits lead beyond the limit,
or it has a sign that the type does not know. -/
theorem exists_parse_ofInt_eq_error {k : IntKind} {n : Int} (h : ¬ k.Holds n) :
    ∃ fault, k.parse (Decimal.ofInt n) = .error fault := by
  obtain ⟨c, cs, hdigits, hdigit⟩ := Decimal.exists_cons_ofNat n.natAbs
  unfold Holds at h
  by_cases hneg : n < 0
  · rw [Decimal.ofInt, if_pos hneg, hdigits]
    cases hsigned : k.signed with
    | true =>
      have hbeyond : k.minMagnitude < n.natAbs := by omega
      rw [parse_minus hsigned, parseNegative, ← hdigits, readMagnitude_ofNat_beyond hbeyond]
      exact ⟨_, rfl⟩
    | false => exact ⟨.invalidDigit, by simp [parse, hsigned]⟩
  · have hbeyond : k.maxNat < n.natAbs := by omega
    rw [Decimal.ofInt, if_neg hneg, hdigits, parse_digits k hdigit, parsePositive, ← hdigits,
      readMagnitude_ofNat_beyond hbeyond]
    exact ⟨_, rfl⟩

/-- Only a signed type reads a zero behind a minus sign. -/
theorem parse_minus_zero (k : IntKind) :
    k.parse ['-', '0'] = if k.signed then .ok k.zero else .error .invalidDigit := by
  cases k <;> rfl

end IntKind

namespace Binary

/-- A decimal is written in the characters of numbers. -/
theorem isNumeral_of_mem_positional {d : ScaledDecimal} {c : Char} (h : c ∈ positional d) :
    isNumeral c := by
  -- Zeros in front of the digits, as they stand around the point of a small number.
  have hzeros {k : Nat} {c : Char}
      (h : c ∈ List.replicate k '0' ++ Decimal.ofNat d.digits) : isNumeral c := by
    rcases List.mem_append.1 h with h | h
    · rw [List.eq_of_mem_replicate h]
      rfl
    · exact isNumeral_of_isDigit (Decimal.isDigit_of_mem_ofNat h)
  unfold positional at h
  dsimp only at h
  split at h
  · rcases List.mem_append.1 h with h | h
    · exact isNumeral_of_isDigit (Decimal.isDigit_of_mem_ofNat h)
    · rw [List.eq_of_mem_replicate h]
      rfl
  · rcases List.mem_append.1 h with h | h
    · exact hzeros (List.mem_of_mem_take h)
    · rcases List.mem_cons.1 h with rfl | h
      · rfl
      · exact hzeros (List.mem_of_mem_drop h)

/-- A finite number is written in numerals. -/
theorem isNumeral_of_mem_display {F : FloatFormat} {x : Binary F} (hx : x.isFinite) {c : Char}
    (h : c ∈ x.display) : isNumeral c := by
  have hbody {c : Char}
      (h : c ∈ if x.isZero then ['0'] else positional (x.shortest .up)) : isNumeral c := by
    split at h
    · rw [List.mem_singleton.1 h]
      rfl
    · exact isNumeral_of_mem_positional h
  simp only [display, isNaN, isInfinite, hx, Bool.not_true, Bool.false_and, Bool.false_eq_true,
    if_false] at h
  split at h
  · rcases List.mem_cons.1 h with rfl | h
    · rfl
    · exact hbody h
  · exact hbody h

end Binary

end SqlBinding.Numeric
