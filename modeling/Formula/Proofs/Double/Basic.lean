import Formula.Double.Basic
import Mathlib.Algebra.Group.Nat.Defs
import Mathlib.Tactic.ByContra
import Mathlib.Tactic.Lemma

set_option autoImplicit false

/-!
# Numbers from their fields

A number is given by its sign and its magnitude, and the magnitude by its significand and its
exponent. A value that a number has exactly is rounded to that number.

## Main results

* `Formula.Double.ofMagnitude_magnitude` — a number is built from its sign and magnitude.
* `Formula.Double.ofScaled_eq_self` — the nearest number to the value of a number is that number.
* `Formula.Double.ofInt_of_toInt?` — so it is for integers below `2 ^ 53`, but for the sign of zero.
* `Formula.Double.totalCompare_eq_compare_key` — without negative zeros, the total order is the
  numerical one.
-/

namespace Formula.Double

variable {x y : Double}

/-! ## Sign and magnitude -/

/-- A number is built from its sign and magnitude.

**Proof sketch.** The sign is the first of the 64 bits and the magnitude is the rest, so they make up
the number again. -/
lemma ofMagnitude_magnitude (x : Double) : ofMagnitude x.isNegative x.magnitude = x := by
  obtain ⟨bits⟩ := x
  have hlt := bits.toNat_lt
  unfold ofMagnitude isNegative magnitude
  congr 1
  apply UInt64.toNat_inj.mp
  rw [UInt64.toNat_ofNat']
  by_cases h : 0x8000000000000000 ≤ bits.toNat
  · simp only [h, decide_true, if_true]
    omega
  · simp only [h, decide_false, Bool.false_eq_true, if_false]
    omega

/-- The two zeros are the numbers of magnitude zero. -/
lemma eq_zero_of_isZero (h : x.isZero = true) : x = zero x.isNegative := by
  have hmagnitude : x.magnitude = 0 := of_decide_eq_true h
  rw [zero, ← hmagnitude, ofMagnitude_magnitude]

/-- A finite number is not a NaN. -/
lemma not_isNaN_of_isFinite (h : x.isFinite = true) : x.isNaN = false := by
  have hlt : x.magnitude < infiniteMagnitude := of_decide_eq_true h
  exact decide_eq_false (Nat.lt_asymm hlt)

/-! ## Significand and exponent -/

/-- The magnitude of a number is made of its exponent and its significand. The leading bit of a normal
number, which is not stored, adds one to the exponent field.

**Proof sketch.** The magnitude is the exponent field and the fraction, and the two cases differ in
whether the field is zero. -/
lemma magnitude_eq (x : Double) :
    x.magnitude = (x.exponent + 1074).toNat * 0x10000000000000 + x.significand := by
  have hdiv := Nat.div_add_mod x.magnitude 0x10000000000000
  unfold exponent significand
  split
  · next h =>
    unfold exponentField at h
    unfold fraction
    omega
  · next h =>
    unfold exponentField at h ⊢
    unfold fraction
    omega

/-- No exponent is less than that of the subnormal numbers. -/
lemma neg_1074_le_exponent (x : Double) : -1074 ≤ x.exponent := by
  unfold exponent
  split <;> omega

/-- A significand has 53 bits at most. -/
lemma significand_lt (x : Double) : x.significand < 2 ^ 53 := by
  have hmod := Nat.mod_lt x.magnitude (show 0 < 0x10000000000000 by decide)
  unfold significand fraction
  split <;> omega

/-- Only the least exponent comes with significands that have fewer than 53 bits. -/
lemma le_significand (h : x.exponent ≠ -1074) : 2 ^ 52 ≤ x.significand := by
  unfold exponent at h
  unfold significand
  split at h
  · exact absurd rfl h
  · next hfield =>
    rw [if_neg hfield]
    omega

/-- A number without significand is zero.

**Proof sketch.** Only the least exponent comes with such a significand, so the magnitude is zero. -/
lemma isZero_of_significand_eq_zero (h : x.significand = 0) : x.isZero = true := by
  have hexponent : x.exponent = -1074 := by
    by_contra hne
    have := le_significand hne
    omega
  refine decide_eq_true ?_
  rw [magnitude_eq, h, hexponent]
  rfl

/-! ## Rounding -/

/-- A power of two that is multiplied with counts in the binary logarithm. -/
lemma log2_mul_two_pow {m : Nat} (hm : m ≠ 0) (k : Nat) : (m * 2 ^ k).log2 = m.log2 + k := by
  induction k with
  | zero => simp
  | succ k ih =>
    have hne : m * 2 ^ k ≠ 0 := Nat.mul_ne_zero hm (Nat.ne_of_gt (Nat.two_pow_pos k))
    rw [Nat.pow_succ', Nat.mul_left_comm, Nat.log2_two_mul hne, ih]
    omega

/-- The nearest number to the value of a number is that number.

**Proof sketch.** The significand has 53 bits unless the exponent is the least one. In either case the
unit to which is rounded is that of the number, so nothing is rounded, and the parts are put together
again. -/
lemma ofScaled_eq_self {m k : Nat} (hfinite : x.isFinite = true) (hm : m ≠ 0)
    (h : x.significand = m * 2 ^ k) : ofScaled x.isNegative m (x.exponent + k) = x := by
  have hpos : x.significand ≠ 0 := by
    rw [h]
    exact Nat.mul_ne_zero hm (Nat.ne_of_gt (Nat.two_pow_pos k))
  have hlog : x.significand.log2 = m.log2 + k := by
    rw [h, log2_mul_two_pow hm]
  have hlog_lt : x.significand.log2 < 53 := (Nat.log2_lt hpos).mpr x.significand_lt
  -- The unit of the number is the unit of the result.
  have hunit : Max.max (x.exponent + k + m.log2 - 52) (-1074) = x.exponent := by
    have hleast := x.neg_1074_le_exponent
    by_cases he : x.exponent = -1074
    · omega
    · have hlog_ge : 52 ≤ x.significand.log2 := (Nat.le_log2 hpos).mpr (le_significand he)
      omega
  have hlt : x.magnitude < infiniteMagnitude := of_decide_eq_true hfinite
  unfold ofScaled
  rw [if_neg hm]
  simp only [hunit]
  rw [if_pos (by omega), show (x.exponent + k - x.exponent).toNat = k by omega, Nat.pow_eq, ← h,
    ← magnitude_eq, Nat.min_eq_left (by omega), ofMagnitude_magnitude]

/-! ## Integers -/

/-- A number that is equal to an integer is finite. -/
lemma isFinite_of_toInt? {i : Int} (h : x.toInt? = some i) : x.isFinite = true := by
  by_contra hne
  simp [toInt?, hne] at h

/-- The integer of a number has its sign, and its absolute value is the significand scaled by a power
of two that leaves no fraction.

**Proof sketch.** The integer is computed from the significand and the power of two, and its sign is
that of the number. -/
lemma natAbs_of_toInt? {i : Int} (h : x.toInt? = some i) :
    x.significand % 2 ^ (-x.exponent).toNat = 0 ∧
    i.natAbs = x.significand / 2 ^ (-x.exponent).toNat * 2 ^ x.exponent.toNat ∧
    (i ≠ 0 → x.isNegative = decide (i < 0)) := by
  have hfinite := isFinite_of_toInt? h
  unfold toInt? at h
  simp only [hfinite, Bool.not_true, Bool.false_eq_true, if_false, Nat.pow_eq] at h
  generalize x.significand / 2 ^ (-x.exponent).toNat * 2 ^ x.exponent.toNat = n at h ⊢
  split at h
  · next hmod =>
    refine ⟨hmod, ?_⟩
    cases hsign : x.isNegative <;> simp [hsign] at h ⊢ <;> omega
  · cases h

/-- The significand of an integer below `2 ^ 53`.

**Proof sketch.** With a positive exponent the integer would not be below `2 ^ 53`. Otherwise the
division by the power of two leaves no remainder and is undone by the product. -/
lemma significand_of_toInt? {i : Int} (h : x.toInt? = some i) (hi : i.natAbs < 2 ^ 53) :
    x.exponent ≤ 0 ∧ x.significand = i.natAbs * 2 ^ (-x.exponent).toNat := by
  obtain ⟨hmod, hnatAbs, -⟩ := natAbs_of_toInt? h
  by_cases hexponent : x.exponent ≤ 0
  · refine ⟨hexponent, ?_⟩
    rw [hnatAbs, show x.exponent.toNat = 0 by omega, Nat.pow_zero, Nat.mul_one,
      Nat.div_mul_cancel (Nat.dvd_of_mod_eq_zero hmod)]
  · -- A number with a greater exponent is at least twice `2 ^ 52`.
    have hle : 2 ^ 52 ≤ x.significand := le_significand (by omega)
    have htwo : 2 ^ 1 ≤ 2 ^ x.exponent.toNat := Nat.pow_le_pow_right (by omega) (by omega)
    rw [show (-x.exponent).toNat = 0 by omega, Nat.pow_zero, Nat.div_one] at hnatAbs
    have := Nat.mul_le_mul hle htwo
    omega

/-- Zero is the only number that is equal to the integer zero.

**Proof sketch.** A zero has no significand, hence no integer but zero. Conversely, the significand is a
multiple of the integer. -/
lemma isZero_iff_of_toInt? {i : Int} (h : x.toInt? = some i) (hi : i.natAbs < 2 ^ 53) :
    x.isZero = true ↔ i = 0 := by
  constructor
  · intro hzero
    have hmagnitude : x.magnitude = 0 := of_decide_eq_true hzero
    have hsignificand : x.significand = 0 := by
      rw [magnitude_eq] at hmagnitude
      omega
    have hnatAbs := (natAbs_of_toInt? h).2.1
    rw [hsignificand, Nat.zero_div, Nat.zero_mul] at hnatAbs
    exact Int.natAbs_eq_zero.mp hnatAbs
  · rintro rfl
    have hsignificand := (significand_of_toInt? h hi).2
    rw [Int.natAbs_zero, Nat.zero_mul] at hsignificand
    exact isZero_of_significand_eq_zero hsignificand

/-- The nearest number to the integer of a number is that number, if the integer is below `2 ^ 53`, but
without the sign of zero.

**Proof sketch.** The significand is the absolute value of the integer scaled by the exponent, and
rounding it gives the number. -/
lemma ofInt_of_toInt? {i : Int} (h : x.toInt? = some i) (hi : i.natAbs < 2 ^ 53) :
    ofInt i = if x.isZero then zero false else x := by
  by_cases hzero : i = 0
  · rw [if_pos ((isZero_iff_of_toInt? h hi).mpr hzero), hzero]
    rfl
  · rw [if_neg (mt (isZero_iff_of_toInt? h hi).mp hzero)]
    obtain ⟨hexponent, hsignificand⟩ := significand_of_toInt? h hi
    have heq := ofScaled_eq_self (isFinite_of_toInt? h) (Int.natAbs_ne_zero.mpr hzero) hsignificand
    rw [show x.exponent + ((-x.exponent).toNat : Int) = 0 by omega,
      (natAbs_of_toInt? h).2.2 hzero] at heq
    exact heq

/-! ## Order -/

/-- Numbers that are no NaNs are compared by their keys. -/
lemma compare?_of_not_isNaN (hx : x.isNaN = false) (hy : y.isNaN = false) :
    x.compare? y = some (compare x.key y.key) := by
  simp [compare?, hx, hy]

/-- A finite number is equal to itself. -/
lemma eq_self_of_isFinite (h : x.isFinite = true) : x.eq x = true := by
  have hnan := not_isNaN_of_isFinite h
  rw [eq, compare?_of_not_isNaN hnan hnan, Std.ReflOrd.compare_self]
  rfl

/-- The total order moves the negative numbers away from zero, to make room for the negative zero.

**Proof sketch.** The two keys only differ for negative numbers, and a negative number with no magnitude
is the negative zero. -/
lemma totalKey_eq (hx : x ≠ zero true) :
    x.totalKey = if x.key < 0 then x.key - 1 else x.key := by
  unfold totalKey key
  by_cases hnegative : x.isNegative
  · have hpos : x.magnitude ≠ 0 := by
      intro h
      rw [zero, ← h, ← hnegative, ofMagnitude_magnitude] at hx
      exact hx rfl
    simp only [hnegative, if_true]
    omega
  · simp only [hnegative, Bool.false_eq_true, if_false]
    omega

/-- Without negative zeros, the total order is the numerical one. -/
lemma totalCompare_eq_compare_key (hx : x ≠ zero true) (hy : y ≠ zero true) :
    x.totalCompare y = compare x.key y.key := by
  rw [totalCompare, totalKey_eq hx, totalKey_eq hy]
  rcases Int.lt_trichotomy x.key y.key with hlt | heq | hgt
  · rw [Int.compare_eq_lt.mpr hlt, Int.compare_eq_lt]
    omega
  · rw [heq, Std.ReflOrd.compare_self, Std.ReflOrd.compare_self]
  · rw [Int.compare_eq_gt.mpr hgt, Int.compare_eq_gt]
    omega

end Formula.Double
