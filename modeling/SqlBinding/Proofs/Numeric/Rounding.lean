import Mathlib.Algebra.Order.Field.Power
import Mathlib.Algebra.Order.Field.Rat
import Mathlib.Tactic.FieldSimp
import Mathlib.Tactic.GCongr
import Mathlib.Tactic.Linarith
import Mathlib.Tactic.Positivity
import Mathlib.Tactic.Ring
import SqlBinding.Numeric.Binary.Rounding
import SqlBinding.Numeric.Binary.Shortest

/-!
# Rounding, as a statement about rationals

The rationals that round to a number of a binary format are those between the midpoints to its two
neighbours, and the midpoints themselves when the significand is even. Rounding a quotient, and so
reading a decimal, gives the number whose surroundings it lies in. The one turn in the argument is
at the powers of two: a quotient just below one has the finer scale of the numbers below, on which
it rounds up to a full significand, and so carries into the exponent.
-/

set_option autoImplicit false

namespace SqlBinding.Numeric

/-- Whether a rational lies between two others, of which it may be one if the ends belong. -/
def Within : (closed : Bool) → (low v high : ℚ) → Prop
  | true, low, v, high => low ≤ v ∧ v ≤ high
  | false, low, v, high => low < v ∧ v < high

namespace Within

variable {closed : Bool} {low v high : ℚ}

/-- What lies between two numbers is not below the one and not above the other. -/
theorem le (h : Within closed low v high) : low ≤ v ∧ v ≤ high := by
  cases closed with
  | true => exact h
  | false => exact ⟨h.1.le, h.2.le⟩

/-- What lies between two numbers lies between any that are further apart. -/
theorem mono {low' high' : ℚ} (h : Within closed low v high) (hlow : low' ≤ low)
    (hhigh : high ≤ high') : Within closed low' v high' := by
  cases closed with
  | true => exact ⟨hlow.trans h.1, h.2.trans hhigh⟩
  | false => exact ⟨hlow.trans_lt h.1, h.2.trans_le hhigh⟩

/-- What lies strictly between two numbers lies between them in any case. -/
theorem of_open (h : Within false low v high) : Within closed low v high := by
  cases closed with
  | true => exact h.le
  | false => exact h

/-- All three may be measured in another unit. -/
theorem mul_iff {k : ℚ} (hk : 0 < k) :
    Within closed (low * k) (v * k) (high * k) ↔ Within closed low v high := by
  cases closed with
  | true => simp only [Within, mul_le_mul_iff_left₀ hk]
  | false => simp only [Within, mul_lt_mul_iff_left₀ hk]

end Within

/-- The power of two as a rational. -/
theorem cast_twoTo (n : ℕ) : ((twoTo n : ℕ) : ℚ) = 2 ^ n := Nat.cast_pow 2 n

/-- The power of ten as a rational. -/
theorem cast_tenTo (n : ℕ) : ((tenTo n : ℕ) : ℚ) = 10 ^ n := Nat.cast_pow 10 n

/-- A power with an integer exponent as a quotient of powers with natural ones. -/
theorem zpow_eq_div {b : ℚ} (hb : b ≠ 0) (e : ℤ) : b ^ e = b ^ e.toNat / b ^ (-e).toNat := by
  rw [← zpow_natCast, ← zpow_natCast, ← zpow_sub₀ hb]
  congr 1
  omega

/-- The next power of two is twice as large. -/
theorem twoTo_succ (n : ℕ) : twoTo (n + 1) = 2 * twoTo n := Nat.pow_succ'

/-- Powers on either side of a number tell the order of their exponents. -/
theorem exponent_lt {b v : ℚ} (hb : 1 < b) {m n : ℤ} (hlow : b ^ m ≤ v) (hhigh : v < b ^ n) :
    m < n :=
  (zpow_lt_zpow_iff_right₀ hb).1 (hlow.trans_lt hhigh)

/-- A quotient is rounded to a number that it is within half a unit of, and closer than that if the
number is odd. -/
theorem roundHalfEven_eq_of_le {num den n : ℕ} (hden : 0 < den)
    (hlow : 2 * (den * n) ≤ 2 * num + den) (hhigh : 2 * num ≤ 2 * (den * n) + den)
    (hodd : n % 2 = 1 → 2 * (den * n) < 2 * num + den ∧ 2 * num < 2 * (den * n) + den) :
    roundHalfEven num den = n := by
  have hdiv : den * (num / den) + num % den = num := Nat.div_add_mod num den
  have hlt : num % den < den := Nat.mod_lt num hden
  unfold roundHalfEven
  generalize num / den = q at hdiv
  generalize num % den = r at hdiv hlt
  have hnear : n = q ∨ n = q + 1 := by
    by_contra hfar
    rcases Nat.lt_or_gt_of_ne (fun heq => hfar (.inl heq)) with hless | hmore
    · have hmul : den * (n + 1) ≤ den * q := Nat.mul_le_mul_left den hless
      rw [Nat.mul_succ] at hmul
      omega
    · have hmul : den * (q + 2) ≤ den * n := Nat.mul_le_mul_left den (by omega)
      rw [Nat.mul_add] at hmul
      omega
  dsimp only
  rcases hnear with rfl | rfl
  · rw [if_pos]
    omega
  · rw [Nat.mul_succ] at hlow hhigh hodd
    rw [if_neg]
    omega

/-- A quotient is rounded to the number whose half-unit surroundings it lies in. -/
theorem roundHalfEven_eq {num den n : ℕ} (hden : 0 < den)
    (h : Within (n % 2 == 0) (n - 1 / 2) ((num : ℚ) / den) (n + 1 / 2)) :
    roundHalfEven num den = n := by
  have hden' : (0 : ℚ) < den := by exact_mod_cast hden
  have hscaled := (Within.mul_iff hden').2 h
  rw [div_mul_cancel₀ _ hden'.ne'] at hscaled
  apply roundHalfEven_eq_of_le hden
  · have hlow : (2 * (den * n) : ℚ) ≤ 2 * num + den := by linarith [hscaled.le.1]
    exact_mod_cast hlow
  · have hhigh : (2 * num : ℚ) ≤ 2 * (den * n) + den := by linarith [hscaled.le.2]
    exact_mod_cast hhigh
  · -- The ends belong to the surroundings of an even number only.
    intro hodd
    have hopen : (n % 2 == 0) = false := by
      rw [hodd]
      rfl
    rw [hopen] at hscaled
    obtain ⟨hlow, hhigh⟩ := hscaled
    have hlow' : (2 * (den * n) : ℚ) < 2 * num + den := by linarith
    have hhigh' : (2 * num : ℚ) < 2 * (den * n) + den := by linarith
    exact ⟨by exact_mod_cast hlow', by exact_mod_cast hhigh'⟩

namespace Binary

variable {F : FloatFormat}

/-- A number lies between the power of two of its logarithm and the next one. -/
theorem log2_bounds {n : ℕ} (h : 0 < n) :
    (2 : ℚ) ^ (Nat.log2 n : ℤ) ≤ n ∧ (n : ℚ) < 2 ^ (Nat.log2 n + 1 : ℤ) :=
  ⟨by exact_mod_cast Nat.log2_self_le h.ne', by exact_mod_cast Nat.lt_log2_self⟩

/-- The logarithms of its parts tell a quotient from two powers of two. -/
theorem ratio_log2_bounds {num den : ℕ} (hnum : 0 < num) (hden : 0 < den) :
    (2 : ℚ) ^ ((Nat.log2 num : ℤ) - Nat.log2 den - 1) ≤ (num : ℚ) / den ∧
      (num : ℚ) / den < 2 ^ ((Nat.log2 num : ℤ) - Nat.log2 den + 1) := by
  have hden' : (0 : ℚ) < den := by exact_mod_cast hden
  have hnumLog := log2_bounds hnum
  have hdenLog := log2_bounds hden
  generalize (Nat.log2 num : ℤ) = a at hnumLog ⊢
  generalize (Nat.log2 den : ℤ) = b at hdenLog ⊢
  constructor
  · rw [le_div_iff₀ hden']
    calc (2 : ℚ) ^ (a - b - 1) * den ≤ 2 ^ (a - b - 1) * 2 ^ (b + 1) := by
          gcongr
          exact hdenLog.2.le
      _ = 2 ^ a := by
          rw [← zpow_add₀ two_ne_zero]
          congr 1
          omega
      _ ≤ num := hnumLog.1
  · rw [div_lt_iff₀ hden']
    calc (num : ℚ) < 2 ^ (a + 1) := hnumLog.2
      _ = 2 ^ (a - b + 1) * 2 ^ b := by
          rw [← zpow_add₀ two_ne_zero]
          congr 1
          omega
      _ ≤ 2 ^ (a - b + 1) * den := by
          gcongr
          exact hdenLog.1

/-- A quotient is compared with a power of two in whole numbers. -/
theorem ratio_lt_zpow_iff (num : ℕ) {den : ℕ} (hden : 0 < den) (p : ℤ) :
    (if 0 ≤ p then decide (num < den * twoTo p.toNat)
      else decide (num * twoTo (-p).toNat < den)) = true ↔ (num : ℚ) / den < 2 ^ p := by
  have hden' : (0 : ℚ) < den := by exact_mod_cast hden
  have hpow : (0 : ℚ) < 2 ^ (-p).toNat := by positivity
  have hscaled : (num : ℚ) / den < 2 ^ p ↔ num * twoTo (-p).toNat < den * twoTo p.toNat := by
    rw [div_lt_iff₀ hden', zpow_eq_div two_ne_zero, div_mul_eq_mul_div, lt_div_iff₀ hpow,
      ← cast_twoTo, ← cast_twoTo, mul_comm (twoTo _ : ℚ) (den : ℚ)]
    exact_mod_cast Iff.rfl
  have hone : twoTo 0 = 1 := rfl
  rw [hscaled]
  split
  · have hzero : (-p).toNat = 0 := by omega
    rw [hzero, hone, Nat.mul_one, decide_eq_true_iff]
  · have hzero : p.toNat = 0 := by omega
    rw [hzero, hone, Nat.mul_one, decide_eq_true_iff]

/-- The scale of a quotient follows the power of two at or below it. -/
theorem exists_scaleOfRatio (F : FloatFormat) {num den : ℕ} (hnum : 0 < num) (hden : 0 < den) :
    ∃ k : ℤ, scaleOfRatio F num den = max F.minScale (k - F.fractionBits) ∧
      (2 : ℚ) ^ k ≤ (num : ℚ) / den ∧ (num : ℚ) / den < 2 ^ (k + 1) := by
  obtain ⟨hlow, hhigh⟩ := ratio_log2_bounds hnum hden
  have hbelow := ratio_lt_zpow_iff num hden (Nat.log2 num - Nat.log2 den)
  unfold scaleOfRatio
  dsimp only
  generalize (Nat.log2 num : ℤ) - Nat.log2 den = p at hlow hhigh hbelow ⊢
  by_cases hlt : (num : ℚ) / den < 2 ^ p
  · refine ⟨p - 1, ?_, hlow, by rwa [sub_add_cancel]⟩
    rw [if_pos (hbelow.2 hlt)]
  · refine ⟨p, ?_, not_lt.1 hlt, hhigh⟩
    rw [if_neg (mt hbelow.1 hlt)]

/-! ### The fields of a number -/

/-- A number is made from its magnitude and its sign. -/
theorem ofMagnitude_magnitude (x : Binary F) (negative : Bool) :
    ofMagnitude negative x.magnitude = { x with negative := negative } := by
  have hfraction := x.fraction.isLt
  have hexponent := x.exponent.isLt
  have hdiv : x.magnitude / twoTo F.fractionBits = x.exponent.val := by
    rw [magnitude, Nat.add_comm, Nat.add_mul_div_right _ _ (twoTo_pos _),
      Nat.div_eq_of_lt hfraction, Nat.zero_add]
  have hmod : x.magnitude % twoTo F.fractionBits = x.fraction.val := by
    rw [magnitude, Nat.add_comm, Nat.add_mul_mod_self_right, Nat.mod_eq_of_lt hfraction]
  simp only [ofMagnitude, hdiv, hmod, Nat.mod_eq_of_lt hexponent]

/-- No number has a finer last place than the smallest ones. -/
theorem minScale_le_scale (x : Binary F) : F.minScale ≤ x.scale := by
  unfold scale
  omega

/-- A significand has one bit more than the fraction at most. -/
theorem significand_lt (x : Binary F) : x.significand < twoTo (F.fractionBits + 1) := by
  have hfraction := x.fraction.isLt
  rw [twoTo_succ]
  unfold significand
  split <;> omega

/-- The fields as one number count the significands of the scales below, and then on. -/
theorem magnitude_eq (x : Binary F) :
    x.magnitude = (x.scale - F.minScale).toNat * twoTo F.fractionBits + x.significand := by
  have hsteps : (x.scale - F.minScale).toNat = x.exponent.val - 1 := by
    unfold scale
    omega
  rw [hsteps, magnitude, significand]
  split
  · rename_i hzero
    simp [hzero]
  · rename_i hpos
    obtain ⟨e, he⟩ := Nat.exists_eq_succ_of_ne_zero hpos
    rw [he, Nat.succ_mul, Nat.succ_sub_one, Nat.add_assoc]

/-- The magnitude of a finite number is below that of infinity. -/
theorem magnitude_lt (x : Binary F) (hx : x.isFinite) :
    x.magnitude < F.specialExponent * twoTo F.fractionBits := by
  have hfraction := x.fraction.isLt
  have hexponent := x.exponent.isLt
  have hne : x.exponent.val ≠ F.specialExponent := by simpa [isFinite] using hx
  have hlt : x.exponent.val + 1 ≤ F.specialExponent := by
    unfold FloatFormat.specialExponent at hne ⊢
    omega
  have hmul := Nat.mul_le_mul_right (twoTo F.fractionBits) hlt
  rw [Nat.succ_mul] at hmul
  unfold magnitude
  omega

/-! ### Quotients near a number -/

/-- Half the distance of the lower neighbour, in quarters of the last place: it is half as far away
at a power of two. -/
def lowerHalf (x : Binary F) : ℕ := if x.fraction.val = 0 ∧ 1 < x.exponent.val then 1 else 2

/-- Whether a rational rounds to the magnitude of a number. -/
def Takes (x : Binary F) (v : ℚ) : Prop :=
  Within (x.significand % 2 == 0) ((x.significand - x.lowerHalf / 4) * 2 ^ x.scale) v
    ((x.significand + 1 / 2) * 2 ^ x.scale)

/-- The quotient measured in units of a scale, as `ofRatio` takes it. -/
theorem round_scaled {num den n : ℕ} (hden : 0 < den) (q : ℤ)
    (h : Within (n % 2 == 0) ((n - 1 / 2) * 2 ^ q) ((num : ℚ) / den) ((n + 1 / 2) * 2 ^ q)) :
    (if 0 ≤ q then roundHalfEven num (den * twoTo q.toNat)
      else roundHalfEven (num * twoTo (-q).toNat) den) = n := by
  have hunit : (0 : ℚ) < (2 ^ q)⁻¹ := by positivity
  have hden' : (den : ℚ) ≠ 0 := by exact_mod_cast hden.ne'
  have hscaled := (Within.mul_iff hunit).2 h
  rw [mul_inv_cancel_right₀ (by positivity), mul_inv_cancel_right₀ (by positivity)] at hscaled
  split
  · rename_i hq
    apply roundHalfEven_eq (Nat.mul_pos hden (twoTo_pos _))
    have hvalue : (num : ℚ) / den * (2 ^ q)⁻¹ = (num : ℚ) / (den * twoTo q.toNat : ℕ) := by
      rw [Nat.cast_mul, cast_twoTo, ← zpow_natCast, Int.toNat_of_nonneg hq, div_mul_eq_div_div,
        div_eq_mul_inv (_ / _)]
    rwa [← hvalue]
  · rename_i hq
    apply roundHalfEven_eq hden
    have hvalue : (num : ℚ) / den * (2 ^ q)⁻¹ = (num * twoTo (-q).toNat : ℕ) / (den : ℚ) := by
      rw [Nat.cast_mul, cast_twoTo, ← zpow_natCast, Int.toNat_of_nonneg (by omega), zpow_neg,
        div_mul_eq_mul_div]
    rwa [← hvalue]

section

variable {x : Binary F} {v : ℚ}

/-- The lower neighbour is not further away than the upper one. -/
theorem lowerHalf_le (x : Binary F) : (x.lowerHalf : ℚ) ≤ 2 := by
  unfold lowerHalf
  split <;> norm_num

/-- Only positive rationals round to a number that is not zero. -/
theorem Takes.pos (hpos : 0 < x.significand) (h : x.Takes v) : 0 < v := by
  have hlow := h.le.1
  have hhalf := x.lowerHalf_le
  have hsignificand : (1 : ℚ) ≤ x.significand := by exact_mod_cast hpos
  refine lt_of_lt_of_le ?_ hlow
  apply mul_pos (by linarith)
  positivity

/-- What rounds to a number is less than the power of two behind it. -/
theorem Takes.lt (h : x.Takes v) : v < 2 ^ (F.fractionBits + 1 + x.scale) := by
  have hhigh := h.le.2
  have hsignificand : (x.significand + 1 : ℚ) ≤ 2 ^ (F.fractionBits + 1) := by
    rw [← cast_twoTo]
    exact_mod_cast x.significand_lt
  calc v ≤ (x.significand + 1 / 2) * 2 ^ x.scale := hhigh
    _ < 2 ^ (F.fractionBits + 1) * 2 ^ x.scale := by
      gcongr
      linarith
    _ = 2 ^ (F.fractionBits + 1 + x.scale) := by
      rw [zpow_add₀ two_ne_zero]
      norm_cast

/-- What rounds to a number and is less than its power of two rounds to that power of two, which is
the number itself. -/
theorem Takes.of_lt (h : x.Takes v) (hscale : F.minScale < x.scale)
    (hlt : v < 2 ^ (F.fractionBits + x.scale)) :
    x.significand = twoTo F.fractionBits ∧ x.lowerHalf = 1 := by
  have hexponent : 1 < x.exponent.val := by
    unfold scale at hscale
    omega
  have hsignificand : x.significand = twoTo F.fractionBits + x.fraction.val := if_neg (by omega)
  have hbelow : (x.significand : ℚ) - x.lowerHalf / 4 < 2 ^ F.fractionBits := by
    have hunit : (0 : ℚ) < 2 ^ x.scale := by positivity
    rw [zpow_add₀ two_ne_zero, zpow_natCast] at hlt
    exact lt_of_mul_lt_mul_right (h.le.1.trans_lt hlt) hunit.le
  have hfraction : x.fraction.val = 0 := by
    by_contra hne
    have hone : (1 : ℚ) ≤ x.fraction.val := by exact_mod_cast Nat.pos_of_ne_zero hne
    have hhalf := x.lowerHalf_le
    rw [hsignificand, Nat.cast_add, cast_twoTo] at hbelow
    linarith
  exact ⟨by rw [hsignificand, hfraction, Nat.add_zero], if_pos ⟨hfraction, hexponent⟩⟩

/-- A quotient that is less than the power of two that the number is has the next scale below, and
is rounded up. -/
theorem Takes.round_up (h : x.Takes v) (hsignificand : x.significand = twoTo F.fractionBits)
    (hhalf : x.lowerHalf = 1) (hlt : v < 2 ^ (F.fractionBits + x.scale)) :
    (2 : ℚ) ^ (F.fractionBits + x.scale - 1) ≤ v ∧
      Within (twoTo (F.fractionBits + 1) % 2 == 0)
        ((twoTo (F.fractionBits + 1) - 1 / 2 : ℚ) * 2 ^ (x.scale - 1)) v
        ((twoTo (F.fractionBits + 1) + 1 / 2 : ℚ) * 2 ^ (x.scale - 1)) := by
  have hunit : (2 : ℚ) ^ x.scale = 2 * 2 ^ (x.scale - 1) := by
    rw [← zpow_one_add₀ two_ne_zero]
    congr 1
    omega
  have hpos : (0 : ℚ) < 2 ^ (x.scale - 1) := by positivity
  have hone : (1 : ℚ) ≤ 2 ^ F.fractionBits := one_le_pow₀ one_le_two
  have heven : (twoTo (F.fractionBits + 1) % 2 == 0) = true := by
    rw [twoTo_succ, Nat.mul_mod_right]
    rfl
  have hlow := h.le.1
  rw [hsignificand, hhalf, hunit, cast_twoTo] at hlow
  rw [heven, cast_twoTo, pow_succ]
  rw [zpow_add₀ two_ne_zero, zpow_natCast, hunit] at hlt
  refine ⟨?_, ?_, ?_⟩
  · rw [add_sub_assoc, zpow_add₀ two_ne_zero, zpow_natCast]
    refine le_trans ?_ hlow
    rw [← mul_assoc]
    refine mul_le_mul_of_nonneg_right ?_ hpos.le
    push_cast
    linarith
  · refine le_trans (le_of_eq ?_) hlow
    push_cast
    ring
  · refine hlt.le.trans ?_
    rw [← mul_assoc]
    refine mul_le_mul_of_nonneg_right ?_ hpos.le
    linarith

/-- A quotient that rounds to a number has the scale of the number, unless it is less than the power
of two that the number is. -/
theorem Takes.scaleOfRatio_eq {num den : ℕ} (h : x.Takes ((num : ℚ) / den)) (hnum : 0 < num)
    (hden : 0 < den) :
    scaleOfRatio F num den =
      if F.minScale < x.scale ∧ (num : ℚ) / den < 2 ^ (F.fractionBits + x.scale) then x.scale - 1
      else x.scale := by
  obtain ⟨k, hscale, hk, hk'⟩ := exists_scaleOfRatio F hnum hden
  have hmax : k < F.fractionBits + 1 + x.scale := exponent_lt one_lt_two hk h.lt
  have hmin := x.minScale_le_scale
  rw [hscale]
  split
  · rename_i hbelow
    obtain ⟨hsignificand, hhalf⟩ := h.of_lt hbelow.1 hbelow.2
    have hge := (h.round_up hsignificand hhalf hbelow.2).1
    have hlow : F.fractionBits + x.scale - 1 < k + 1 := exponent_lt one_lt_two hge hk'
    have hhigh : k < F.fractionBits + x.scale := exponent_lt one_lt_two hk hbelow.2
    omega
  · rename_i hfull
    by_cases hfinest : F.minScale < x.scale
    · have hge : (2 : ℚ) ^ (F.fractionBits + x.scale) ≤ num / den :=
        not_lt.1 fun hlt => hfull ⟨hfinest, hlt⟩
      have hlow : F.fractionBits + x.scale < k + 1 := exponent_lt one_lt_two hge hk'
      omega
    · omega

/-- A quotient that rounds to a number is rounded to it. -/
theorem ofRatio_eq (hx : x.isFinite) (hpos : 0 < x.significand) {num den : ℕ}
    (hden : 0 < den) (h : x.Takes ((num : ℚ) / den)) (negative : Bool) :
    ofRatio negative num den = { x with negative := negative } := by
  have hnum : 0 < num := by
    have hratio := h.pos hpos
    apply Nat.pos_of_ne_zero
    rintro rfl
    simp at hratio
  have hword : (scaleOfRatio F num den - F.minScale).toNat * twoTo F.fractionBits +
      (if 0 ≤ scaleOfRatio F num den then
          roundHalfEven num (den * twoTo (scaleOfRatio F num den).toNat)
        else roundHalfEven (num * twoTo (-scaleOfRatio F num den).toNat) den) = x.magnitude := by
    rw [h.scaleOfRatio_eq hnum hden, magnitude_eq]
    split
    · -- The full significand on the finer scale carries into the exponent.
      rename_i hbelow
      obtain ⟨hsignificand, hhalf⟩ := h.of_lt hbelow.1 hbelow.2
      have hround := (h.round_up hsignificand hhalf hbelow.2).2
      have hsteps : (x.scale - F.minScale).toNat = (x.scale - 1 - F.minScale).toNat + 1 := by omega
      rw [round_scaled hden (x.scale - 1) hround, hsignificand, hsteps, Nat.succ_mul, twoTo_succ]
      omega
    · rw [round_scaled hden]
      refine h.mono (mul_le_mul_of_nonneg_right ?_ (by positivity)) le_rfl
      have hhalf := x.lowerHalf_le
      linarith
  unfold ofRatio
  rw [if_neg hnum.ne']
  dsimp only
  rw [hword, if_pos (x.magnitude_lt hx), ofMagnitude_magnitude]

end

end Binary

/-! ### Decimals near a number -/

/-- The number that a decimal stands for. -/
def ScaledDecimal.value (d : ScaledDecimal) : ℚ := d.digits * 10 ^ d.exponent

/-- A decimal stands for the same number without its trailing zeros. -/
theorem ScaledDecimal.value_stripped (d : ScaledDecimal) : d.stripped.value = d.value := by
  fun_induction ScaledDecimal.stripped d with
  | case1 d h ih =>
    have hdigits : d.digits = 10 * (d.digits / 10) := by omega
    rw [ih, value, value, hdigits, zpow_add_one₀ (by norm_num),
      Nat.mul_div_cancel_left _ (by decide)]
    push_cast
    ring
  | case2 d h => rfl

/-- A decimal with as many places in front of its point as `top` says lies between two powers of
ten. -/
theorem ScaledDecimal.value_bounds {d : ScaledDecimal} (hpos : 0 < d.digits) :
    (10 : ℚ) ^ ((Decimal.ofNat d.digits).length + d.exponent - 1) ≤ d.value ∧
      d.value < 10 ^ ((Decimal.ofNat d.digits).length + d.exponent) := by
  have hlength : 0 < (Decimal.ofNat d.digits).length :=
    List.length_pos_iff.2 Nat.toDigits_ne_nil
  generalize hn : (Decimal.ofNat d.digits).length = n at hlength ⊢
  have hlow : 10 ^ (n - 1) ≤ d.digits := by
    by_contra hlt
    rcases Nat.eq_zero_or_pos (n - 1) with hzero | hwidth
    · rw [hzero] at hlt
      omega
    · have hle := (Nat.length_toDigits_le_iff (by decide) hwidth).2 (not_le.1 hlt)
      have : n ≤ n - 1 := hn ▸ hle
      omega
  have hhigh : d.digits < 10 ^ n := (Nat.length_toDigits_le_iff (by decide) hlength).1 hn.le
  have hunit : (0 : ℚ) < 10 ^ d.exponent := by positivity
  constructor
  · calc (10 : ℚ) ^ (n + d.exponent - 1) = ((10 ^ (n - 1) : ℕ) : ℚ) * 10 ^ d.exponent := by
          rw [Nat.cast_pow, ← zpow_natCast, Nat.cast_ofNat, ← zpow_add₀ (by norm_num)]
          congr 1
          omega
      _ ≤ d.digits * 10 ^ d.exponent := by
          gcongr
  · calc (d.digits : ℚ) * 10 ^ d.exponent < ((10 ^ n : ℕ) : ℚ) * 10 ^ d.exponent := by
          gcongr
      _ = 10 ^ (n + d.exponent) := by
          rw [Nat.cast_pow, ← zpow_natCast, Nat.cast_ofNat, ← zpow_add₀ (by norm_num)]

namespace Binary

variable {F : FloatFormat} {x : Binary F}

/-- The exponents of two that the last place of a finite number may have. -/
theorem scale_bounds (hx : x.isFinite) :
    -1074 ≤ x.scale ∧ F.fractionBits + 1 + x.scale ≤ 1024 := by
  have hexponent := x.exponent.isLt
  have hne : x.exponent.val ≠ F.specialExponent := by simpa [isFinite] using hx
  have hexact : x.scale = F.minScale + (x.exponent.val - 1 : ℕ) := rfl
  cases F with
  | single =>
    have hmin : FloatFormat.single.minScale = -149 := rfl
    have hbits : FloatFormat.single.fractionBits = 23 := rfl
    have hspecial : FloatFormat.single.specialExponent = 255 := rfl
    have hcount : twoTo FloatFormat.single.exponentBits = 256 := rfl
    omega
  | double =>
    have hmin : FloatFormat.double.minScale = -1074 := rfl
    have hbits : FloatFormat.double.fractionBits = 52 := rfl
    have hspecial : FloatFormat.double.specialExponent = 2047 := rfl
    have hcount : twoTo FloatFormat.double.exponentBits = 2048 := rfl
    omega

/-- What rounds to a finite number lies between these powers of ten. -/
theorem Takes.bounds {v : ℚ} (hx : x.isFinite) (hpos : 0 < x.significand) (h : x.Takes v) :
    (10 : ℚ) ^ (-331 : ℤ) < v ∧ v < 10 ^ (310 : ℤ) := by
  obtain ⟨hmin, hmax⟩ := scale_bounds hx
  constructor
  · have hhalf := x.lowerHalf_le
    have hsignificand : (1 : ℚ) ≤ x.significand := by exact_mod_cast hpos
    have hleast : (2 : ℚ) ^ (1075 : ℤ) < 10 ^ (331 : ℤ) := by
      exact_mod_cast (by decide +kernel : (2 : ℕ) ^ 1075 < 10 ^ 331)
    calc (10 : ℚ) ^ (-331 : ℤ) < 2 ^ (-1075 : ℤ) := by
          rw [zpow_neg, zpow_neg]
          exact inv_strictAnti₀ (by positivity) hleast
      _ = 1 / 2 * 2 ^ (-1074 : ℤ) := by
          rw [show (-1075 : ℤ) = -1074 - 1 from rfl, zpow_sub_one₀ two_ne_zero, one_div, mul_comm]
      _ ≤ 1 / 2 * 2 ^ x.scale :=
        mul_le_mul_of_nonneg_left (zpow_le_zpow_right₀ one_le_two hmin) (by norm_num)
      _ ≤ (x.significand - x.lowerHalf / 4) * 2 ^ x.scale := by
        gcongr
        linarith
      _ ≤ v := h.le.1
  · calc v < 2 ^ (F.fractionBits + 1 + x.scale) := h.lt
      _ ≤ 2 ^ (1024 : ℤ) := zpow_le_zpow_right₀ one_le_two hmax
      _ < 10 ^ (310 : ℤ) := by
        exact_mod_cast (by decide +kernel : (2 : ℕ) ^ 1024 < 10 ^ 310)

/-- A decimal that rounds to a number is read as it. -/
theorem ofDecimal_eq (hx : x.isFinite) (hpos : 0 < x.significand) {d : ScaledDecimal}
    (h : x.Takes d.value) (negative : Bool) :
    ofDecimal negative d.digits d.exponent = { x with negative := negative } := by
  have hdigits : 0 < d.digits := by
    have hvalue := h.pos hpos
    apply Nat.pos_of_ne_zero
    intro hzero
    simp [ScaledDecimal.value, hzero] at hvalue
  obtain ⟨hlow, hhigh⟩ := h.bounds hx hpos
  obtain ⟨hleast, hmost⟩ := ScaledDecimal.value_bounds hdigits
  have hover : ¬ overflowExponent < (Decimal.ofNat d.digits).length + d.exponent := by
    have hlt := exponent_lt (by norm_num) hleast hhigh
    unfold overflowExponent
    omega
  have hunder : ¬ (Decimal.ofNat d.digits).length + d.exponent < underflowExponent := by
    have hlt := exponent_lt (by norm_num) hlow.le hmost
    unfold underflowExponent
    omega
  unfold ofDecimal
  rw [if_neg hdigits.ne']
  dsimp only
  rw [if_neg hover, if_neg hunder]
  split
  · rename_i hexponent
    refine ofRatio_eq hx hpos Nat.one_pos ?_ negative
    rwa [Nat.cast_mul, cast_tenTo, ← zpow_natCast, Int.toNat_of_nonneg hexponent, Nat.cast_one,
      div_one]
  · rename_i hexponent
    have hden : 0 < tenTo (-d.exponent).toNat := Nat.pow_pos (by decide)
    refine ofRatio_eq hx hpos hden ?_ negative
    rwa [cast_tenTo, ← zpow_natCast, Int.toNat_of_nonneg (by omega), zpow_neg, div_inv_eq_mul]

end Binary

end SqlBinding.Numeric
