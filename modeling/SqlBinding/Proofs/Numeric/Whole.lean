import SqlBinding.Proofs.Numeric.Rounding

/-!
# Whole floating-point numbers

A finite number is a rational, its significand scaled by a power of two under its sign. If it is a
whole one, then the digits that are written for it are those of the same integer; the sign field
shows in front of zero only.
-/

set_option autoImplicit false

namespace SqlBinding.Numeric

namespace Binary

variable {F : FloatFormat} {x : Binary F}

/-- The rational that a finite number is. -/
def value (x : Binary F) : ℚ := (if x.negative then -1 else 1) * (x.significand * 2 ^ x.scale)

/-- A whole magnitude is told of exactly the numbers that have one. -/
theorem wholeMagnitude?_eq_some_iff (hx : x.isFinite) {n : ℕ} :
    x.wholeMagnitude? = some n ↔ (x.significand : ℚ) * 2 ^ x.scale = n := by
  rw [wholeMagnitude?, if_pos hx]
  generalize x.significand = m
  generalize x.scale = e
  by_cases he : 0 ≤ e
  · have hpow : (m : ℚ) * 2 ^ e = (m * twoTo e.toNat : ℕ) := by
      rw [Nat.cast_mul, cast_twoTo, ← zpow_natCast, Int.toNat_of_nonneg he]
    rw [if_pos he, hpow, Nat.cast_inj, Option.some.injEq]
  · -- The number is whole if the places behind the point are zeros.
    have hpos : 0 < twoTo (-e).toNat := twoTo_pos _
    have hscaled : (m : ℚ) * 2 ^ e = n ↔ m = n * twoTo (-e).toNat := by
      have hunit : (2 : ℚ) ^ (-e).toNat ≠ 0 := by positivity
      have hzero : e.toNat = 0 := by omega
      rw [zpow_eq_div two_ne_zero, hzero, pow_zero, mul_one_div, div_eq_iff hunit, ← cast_twoTo,
        ← Nat.cast_mul, Nat.cast_inj]
    rw [if_neg he, hscaled]
    constructor
    · intro h
      split at h
      · rename_i hmod
        cases h
        exact (Nat.div_mul_cancel (Nat.dvd_of_mod_eq_zero hmod)).symm
      · cases h
    · rintro rfl
      rw [if_pos (Nat.mul_mod_left _ _), Nat.mul_div_cancel _ hpos]

/-- A number with the significand zero is zero, with either sign. -/
theorem value_of_significand (h : x.significand = 0) : x.value = (0 : ℤ) := by
  simp [value, h]

/-- A number whose magnitude is whole is an integer, with its sign. -/
theorem value_of_wholeMagnitude? {z : ℤ} (hx : x.isFinite)
    (hmagnitude : x.wholeMagnitude? = some z.natAbs)
    (hsign : (if x.negative then -(z.natAbs : ℤ) else z.natAbs) = z) : x.value = z := by
  rw [value, (wholeMagnitude?_eq_some_iff hx).1 hmagnitude, ← hsign]
  cases x.negative with
  | true => simp
  | false => simp

/-- A whole number is written in full, with the sign that its field says it has. -/
theorem wholeText?_of_value (hx : x.isFinite) {z : ℤ} (hz : x.value = z) :
    x.wholeText? = some (if x.negative ∧ z = 0 then ['-', '0'] else Decimal.ofInt z) := by
  have hmagnitude : (x.significand : ℚ) * 2 ^ x.scale = z.natAbs := by
    have hnonneg : (0 : ℚ) ≤ x.significand * 2 ^ x.scale := by positivity
    have habs : |x.value| = x.significand * 2 ^ x.scale := by
      unfold value
      cases x.negative with
      | true => rw [if_pos rfl, neg_one_mul, abs_neg, abs_of_nonneg hnonneg]
      | false => rw [if_neg Bool.false_ne_true, one_mul, abs_of_nonneg hnonneg]
    rw [← habs, hz, Nat.cast_natAbs, Int.cast_abs]
  rw [wholeText?, (wholeMagnitude?_eq_some_iff hx).2 hmagnitude, Option.map_some]
  unfold value at hz
  cases hsign : x.negative with
  | true =>
    rw [hsign, hmagnitude, if_pos rfl, neg_one_mul] at hz
    have hneg : -(z.natAbs : ℤ) = z := by exact_mod_cast hz
    by_cases hzero : z = 0
    · subst hzero
      rfl
    · have hlt : z < 0 := by omega
      simp [Decimal.ofInt, hzero, hlt]
  | false =>
    rw [hsign, hmagnitude, if_neg Bool.false_ne_true, one_mul] at hz
    have hpos : (0 : ℚ) ≤ z := hz ▸ Nat.cast_nonneg _
    have hge : ¬ z < 0 := not_lt.2 (by exact_mod_cast hpos)
    simp [Decimal.ofInt, hge]

end Binary

end SqlBinding.Numeric
