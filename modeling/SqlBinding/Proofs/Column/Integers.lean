import SqlBinding.Proofs.Column.Delivery
import SqlBinding.Proofs.Numeric.DecimalText
import SqlBinding.Proofs.Numeric.Whole

/-!
# Integers delivered by a driver

An integer may be delivered as such, as its decimal text with blanks around it, as the bytes of that
text, or as a whole float. It is scanned as the same number by every type that holds it, and refused
by every other. The one exception is the negative zero, whose sign an unsigned type does not read.
-/

set_option autoImplicit false

namespace SqlBinding

open Numeric Text

/-- A digit or a sign is no blank. -/
theorem Numeric.isBlank_of_isNumeral {c : Char} (h : isNumeral c) : isBlank c = false := by
  simp only [isNumeral, Bool.or_eq_true, beq_iff_eq] at h
  rcases h with (hdigit | rfl) | rfl
  · exact isBlank_of_isDigit hdigit
  · rfl
  · rfl

/-- The decimal text of an integer has no blanks at its ends. -/
theorem Numeric.Decimal.tight_ofInt (n : Int) : Tight (ofInt n) := by
  apply Solid.tight
  · intro c hc
    exact isBlank_of_isNumeral (isNumeral_of_mem_ofInt hc)
  · unfold ofInt
    split
    · exact List.cons_ne_nil _ _
    · exact Nat.toDigits_ne_nil

namespace Numeric.IntKind

variable {k : IntKind} {z : ℤ} {negative : Bool}

/-- Every integer type holds zero. -/
theorem holds_zero (k : IntKind) : k.Holds 0 := ⟨k.zero.ge_min, k.zero.le_max⟩

/-- The digits of a whole float are read as its value by a type that holds it, but those of the
negative zero by a signed type only. -/
theorem parse_wholeDigits (h : k.Holds z) (hzero : ¬ (negative ∧ z = 0 ∧ ¬ k.signed)) :
    k.parse (if negative ∧ z = 0 then ['-', '0'] else Decimal.ofInt z) = .ok ⟨z, h.1, h.2⟩ := by
  by_cases hminus : negative ∧ z = 0
  · obtain ⟨hnegative, rfl⟩ := hminus
    have hsigned : k.signed := by
      by_contra hunsigned
      exact hzero ⟨hnegative, rfl, hunsigned⟩
    rw [if_pos ⟨hnegative, rfl⟩, parse_minus_zero, if_pos hsigned]
    rfl
  · rw [if_neg hminus, parse_ofInt h]

/-- The digits of an integral float are no number of the type if it is out of range, or is minus
zero and the type is unsigned. -/
theorem exists_parse_wholeDigits_eq_error
    (h : ¬ k.Holds z ∨ (negative ∧ z = 0 ∧ ¬ k.signed)) :
    ∃ fault, k.parse (if negative ∧ z = 0 then ['-', '0'] else Decimal.ofInt z) = .error fault := by
  rcases h with hout | ⟨hnegative, rfl, hunsigned⟩
  · have hminus : ¬ (negative ∧ z = 0) := by
      rintro ⟨-, rfl⟩
      exact hout k.holds_zero
    rw [if_neg hminus]
    exact exists_parse_ofInt_eq_error hout
  · exact ⟨.invalidDigit, by rw [if_pos ⟨hnegative, rfl⟩, parse_minus_zero, if_neg hunsigned]⟩

end Numeric.IntKind

namespace ColumnValue

/-- A textual value is parsed without the blanks around it, whichever way it is delivered. -/
theorem toInteger_textual {v : ColumnValue} {s : String}
    (hv : v = .text s ∨ v = .bytes (Utf8.encode s)) (k : IntKind) :
    v.toInteger k = (k.parse (trim s.toList)).mapError fun _ => .parse s k.name := by
  have htext : v.textOf k.name = .ok s := by
    rcases hv with rfl | rfl
    · rfl
    · rw [textOf, Utf8.decode?_encode]
  have hparsed : v.toInteger k = v.parsed k.name fun cs => (k.parse cs).toOption := by
    rcases hv with rfl | rfl
    · rfl
    · rfl
  rw [hparsed, parsed, htext]
  dsimp only
  cases k.parse (trim s.toList) with
  | ok m => rfl
  | error fault => rfl

/-- A whole float is read from the digits that are written for it. -/
theorem toInteger_whole {x : Binary64} (hx : x.isFinite) {z : ℤ} (hz : x.value = z)
    (k : IntKind) :
    (float x).toInteger k =
      (k.parse (if x.negative ∧ z = 0 then ['-', '0'] else Decimal.ofInt z)).mapError fun _ =>
        .outOfRange x.display k.name := by
  rw [toInteger, Binary.wholeText?_of_value hx hz]
  dsimp only
  cases k.parse (if x.negative ∧ z = 0 then ['-', '0'] else Decimal.ofInt z) with
  | ok m => rfl
  | error fault => rfl

end ColumnValue

namespace Scalar

/-- An integer is scanned as the same number from itself, from its decimal text with any blanks
around it, and from the bytes of that text, by every type that holds it. Every other type refuses
it, the number as out of range and the texts as not parsed. -/
theorem integer_exact_however_delivered (k : IntKind) (n : ℤ) {before after : List Char}
    (hbefore : Blank before) (hafter : Blank after) :
    let s := String.ofList (before ++ Decimal.ofInt n ++ after)
    (∀ h : k.Holds n,
      (int k).ofColumn (.text s) = .ok ⟨n, h.1, h.2⟩ ∧
      (int k).ofColumn (.bytes (Utf8.encode s)) = .ok ⟨n, h.1, h.2⟩ ∧
      ∀ i : I64, i.val = n → (int k).ofColumn (.int i) = .ok ⟨n, h.1, h.2⟩) ∧
    (¬ k.Holds n →
      (int k).ofColumn (.text s) = .error (.parse s k.name) ∧
      (int k).ofColumn (.bytes (Utf8.encode s)) = .error (.parse s k.name) ∧
      ∀ i : I64, i.val = n → (int k).ofColumn (.int i) = .error (.outOfRange i.text k.name)) := by
  intro s
  have htrim : trim s.toList = Decimal.ofInt n := by
    rw [String.toList_ofList]
    exact trim_tight hbefore (Decimal.tight_ofInt n) hafter
  have htextual {v : ColumnValue} (hv : v = .text s ∨ v = .bytes (Utf8.encode s)) :
      (int k).ofColumn v = (k.parse (Decimal.ofInt n)).mapError fun _ => .parse s k.name := by
    rw [← htrim]
    exact ColumnValue.toInteger_textual hv k
  constructor
  · intro h
    rw [IntKind.parse_ofInt h] at htextual
    refine ⟨htextual (.inl rfl), htextual (.inr rfl), ?_⟩
    rintro i rfl
    rw [ofColumn, ColumnValue.toInteger, IntKind.ofInt?_of_holds h]
  · intro h
    obtain ⟨fault, hfault⟩ := IntKind.exists_parse_ofInt_eq_error h
    rw [hfault] at htextual
    refine ⟨htextual (.inl rfl), htextual (.inr rfl), ?_⟩
    rintro i rfl
    rw [ofColumn, ColumnValue.toInteger, IntKind.ofInt?_of_not_holds h]

/-- The greatest number of 64 bits, between an ideographic and a narrow space, and the first number
below those of 8 bits. -/
theorem integer_exact_at_limits :
    Blank ['\u3000'] ∧ Blank ['\u202f', '\n'] ∧
      (∃ m : U64, m.val = 18446744073709551615 ∧
        (int .u64).ofColumn (.text "\u300018446744073709551615\u202f\n") = .ok m) ∧
      (int .i8).ofColumn (.bytes (Utf8.encode "\u3000-129\u202f\n")) =
        .error (.parse "\u3000-129\u202f\n" "i8") ∧
      (int .i8).ofColumn (.int ⟨-129, by decide, by decide⟩) =
        .error (.outOfRange "-129".toList "i8") := by
  have hbefore : Blank ['\u3000'] := by decide
  have hafter : Blank ['\u202f', '\n'] := by decide
  have hholds : IntKind.u64.Holds 18446744073709551615 := by decide
  have hout : ¬ IntKind.i8.Holds (-129) := by decide
  have hwide := (integer_exact_however_delivered .u64 _ hbefore hafter).1 hholds
  have hnarrow := (integer_exact_however_delivered .i8 _ hbefore hafter).2 hout
  exact ⟨hbefore, hafter, ⟨_, rfl, hwide.1⟩, hnarrow.2.1, hnarrow.2.2 _ rfl⟩

/-- A whole float is scanned as the same number by every type that holds it, unless it is the
negative zero and the type is unsigned. Every other type refuses it as out of range, and so does an
unsigned one the negative zero. -/
theorem whole_float_exact_iff (k : IntKind) (x : Binary64) (hx : x.isFinite) (z : ℤ)
    (hz : x.value = z) :
    (∀ h : k.Holds z, (int k).ofColumn (.float x) = .ok ⟨z, h.1, h.2⟩ ↔
      ¬ (x.negative ∧ z = 0 ∧ ¬ k.signed)) ∧
    (¬ k.Holds z ∨ (x.negative ∧ z = 0 ∧ ¬ k.signed) →
      (int k).ofColumn (.float x) = .error (.outOfRange x.display k.name)) := by
  have hread : (int k).ofColumn (.float x) =
      (k.parse (if x.negative ∧ z = 0 then ['-', '0'] else Decimal.ofInt z)).mapError fun _ =>
        .outOfRange x.display k.name := ColumnValue.toInteger_whole hx hz k
  have hrefused (h : ¬ k.Holds z ∨ (x.negative ∧ z = 0 ∧ ¬ k.signed)) :
      (int k).ofColumn (.float x) = .error (.outOfRange x.display k.name) := by
    obtain ⟨fault, hfault⟩ := IntKind.exists_parse_wholeDigits_eq_error h
    rw [hread, hfault]
    rfl
  refine ⟨fun h => ⟨fun hok hzero => ?_, fun hzero => ?_⟩, hrefused⟩
  · rw [hrefused (.inr hzero)] at hok
    cases hok
  · rw [hread, IntKind.parse_wholeDigits h hzero]
    rfl

/-- The greatest double below the power of two that bounds 64 bits, that power itself, and the
negative zero in a signed type. -/
theorem whole_float_exact_at_limits :
    (∃ m : U64, m.val = 18446744073709549568 ∧
        (int .u64).ofColumn (.float (.ofBits 0x43efffffffffffff)) = .ok m) ∧
      (int .u64).ofColumn (.float (.ofBits 0x43f0000000000000)) =
        .error (.outOfRange (Binary.ofBits 0x43f0000000000000 : Binary64).display "u64") ∧
      (int .i8).ofColumn (.float (.ofBits 0x8000000000000000)) = .ok IntKind.i8.zero := by
  have hbelow : (Binary.ofBits 0x43efffffffffffff : Binary64).value = (18446744073709549568 : ℤ) :=
    Binary.value_of_wholeMagnitude? (by decide) (by decide) (by decide)
  have hbound : (Binary.ofBits 0x43f0000000000000 : Binary64).value = (18446744073709551616 : ℤ) :=
    Binary.value_of_wholeMagnitude? (by decide) (by decide) (by decide)
  have hzero : (Binary.ofBits 0x8000000000000000 : Binary64).value = (0 : ℤ) :=
    Binary.value_of_significand (by decide)
  have hholds : IntKind.u64.Holds 18446744073709549568 := by decide
  have hout : ¬ IntKind.u64.Holds 18446744073709551616 := by decide
  refine ⟨⟨⟨_, hholds.1, hholds.2⟩, rfl, ?_⟩, ?_, ?_⟩
  · exact ((whole_float_exact_iff .u64 _ (by decide) _ hbelow).1 hholds).2 (by simp)
  · exact (whole_float_exact_iff .u64 _ (by decide) _ hbound).2 (.inl hout)
  · have hsigned : IntKind.i8.signed := rfl
    exact ((whole_float_exact_iff .i8 _ (by decide) _ hzero).1 IntKind.i8.holds_zero).2
      (by simp [hsigned])

/-- The negative zero is refused by an unsigned type, which holds its value. -/
theorem negative_zero_not_scanned :
    ¬ ∀ (k : IntKind) (x : Binary64) (z : ℤ), x.isFinite → x.value = z →
      (∀ h : k.Holds z, (int k).ofColumn (.float x) = .ok ⟨z, h.1, h.2⟩) ∧
      (¬ k.Holds z → (int k).ofColumn (.float x) = .error (.outOfRange x.display k.name)) := by
  intro h
  have hfinite : (Binary.ofBits 0x8000000000000000 : Binary64).isFinite := by decide
  have hzero : (Binary.ofBits 0x8000000000000000 : Binary64).value = (0 : ℤ) :=
    Binary.value_of_significand (by decide)
  have hscanned := (h .u8 _ _ hfinite hzero).1 IntKind.u8.holds_zero
  have hrefused := ColumnValue.toInteger_whole hfinite hzero .u8
  cases hrefused.symm.trans hscanned

end Scalar

end SqlBinding
