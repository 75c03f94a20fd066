import Formula.Proofs.Double.Value
import Mathlib.Order.Compare
import Mathlib.Order.WithBot
import Mathlib.Tactic.Linarith
import Mathlib.Tactic.Positivity

set_option autoImplicit false

/-!
# The order of numbers by their values

Numbers are compared by the integers `Formula.Double.key`, which are read off the bits. This is the
order of their exact values, with the infinities at its ends.

## Main definitions

* `Formula.Double.extended` — the exact value of a number that is not a NaN, infinities included.

## Main results

* `Formula.Double.magnitude_lt_iff` — magnitudes grow with the absolute values.
* `Formula.Double.compare?_eq_cmp` — two numbers compare as their exact values, infinities included.
-/

namespace Formula.Double

variable {x y : Double}

/-! ## Absolute values -/

/-- The absolute value of a number is its significand scaled by its exponent. -/
lemma abs_value (x : Double) : |x.value| = x.significand * 2 ^ x.exponent := by
  have hsignificand : |(x.signedSignificand : ℚ)| = x.significand := by
    rw [← Int.cast_abs, Int.abs_eq_natAbs, natAbs_signedSignificand, Int.cast_natCast]
  rw [value, abs_mul, hsignificand, abs_of_pos (zpow_pos two_pos x.exponent)]

/-- A value is its absolute value with the sign of the number. -/
lemma value_eq_abs (x : Double) : x.value = if x.isNegative then -|x.value| else |x.value| := by
  rw [abs_value, value]
  unfold signedSignificand
  split
  · rw [Int.cast_neg, neg_mul, Int.cast_natCast]
  · rw [Int.cast_natCast]

/-- The exponent grows with the magnitude: what a smaller exponent leaves for the significand is less
than the leading bit of a larger one.

**Proof sketch.** Otherwise the smaller number would have the leading bit of the larger exponent. -/
lemma exponent_le_of_magnitude_lt (h : x.magnitude < y.magnitude) : x.exponent ≤ y.exponent := by
  by_contra hlt
  have hleast := y.neg_1074_le_exponent
  have hx := x.magnitude_eq
  have hy := y.magnitude_eq
  have hxle := le_significand (x := x) (by omega)
  have hylt := y.significand_lt
  omega

/-- The absolute value grows with the magnitude.

**Proof sketch.** With one exponent the significands are compared. With two, the significand of the
greater number has its leading bit, and twice the smaller power of two is not more than the greater. -/
lemma abs_value_lt_of_magnitude_lt (h : x.magnitude < y.magnitude) : |x.value| < |y.value| := by
  have hpos : (0 : ℚ) < 2 ^ x.exponent := zpow_pos two_pos x.exponent
  rw [abs_value, abs_value]
  rcases (exponent_le_of_magnitude_lt h).eq_or_lt with heq | hlt
  · have hx := x.magnitude_eq
    have hy := y.magnitude_eq
    rw [← heq] at hy ⊢
    have hsignificand : x.significand < y.significand := by omega
    exact mul_lt_mul_of_pos_right (by exact_mod_cast hsignificand) hpos
  · -- The number with the greater exponent has its leading bit.
    have hleast := x.neg_1074_le_exponent
    have hyle := le_significand (x := y) (by omega)
    have hxlt := x.significand_lt
    have hdouble : (2 : ℚ) ^ x.exponent * 2 ≤ 2 ^ y.exponent := by
      rw [← zpow_add_one₀ two_ne_zero]
      exact zpow_le_zpow_right₀ one_le_two (by omega)
    calc (x.significand : ℚ) * 2 ^ x.exponent
        < 2 ^ 53 * 2 ^ x.exponent := mul_lt_mul_of_pos_right (by exact_mod_cast hxlt) hpos
      _ = 2 ^ 52 * (2 ^ x.exponent * 2) := by ring
      _ ≤ y.significand * 2 ^ y.exponent :=
          mul_le_mul (by exact_mod_cast hyle) hdouble (by positivity) (by positivity)

/-- Numbers of one magnitude have one absolute value. -/
lemma abs_value_of_magnitude_eq (h : x.magnitude = y.magnitude) : |x.value| = |y.value| := by
  have hfield : x.exponentField = y.exponentField := by rw [exponentField, exponentField, h]
  have hfraction : x.fraction = y.fraction := by rw [fraction, fraction, h]
  rw [abs_value, abs_value, significand, significand, exponent, exponent, hfield, hfraction]

/-- Magnitudes grow with the absolute values. -/
lemma magnitude_lt_iff : x.magnitude < y.magnitude ↔ |x.value| < |y.value| := by
  refine ⟨abs_value_lt_of_magnitude_lt, fun h => ?_⟩
  rcases Nat.lt_trichotomy x.magnitude y.magnitude with hlt | heq | hgt
  · exact hlt
  · exact absurd (abs_value_of_magnitude_eq heq) h.ne
  · exact absurd (abs_value_lt_of_magnitude_lt hgt) h.asymm

/-- Only the zeros have magnitude zero. -/
lemma magnitude_pos_iff : 0 < x.magnitude ↔ 0 < |x.value| := by
  have hzero : (zero false).magnitude = 0 := by decide
  have hvalue : |(zero false).value| = 0 := by
    rw [abs_value, show (zero false).significand = 0 by decide, Nat.cast_zero, zero_mul]
  rw [← hzero, magnitude_lt_iff, hvalue]

/-! ## Comparison -/

/-- Keys grow with the values.

**Proof sketch.** One case for each pair of signs. -/
lemma key_lt_key_iff : x.key < y.key ↔ x.value < y.value := by
  have hlt := magnitude_lt_iff (x := x) (y := y)
  have hgt := magnitude_lt_iff (x := y) (y := x)
  have hx := magnitude_pos_iff (x := x)
  have hy := magnitude_pos_iff (x := y)
  have hxabs := abs_nonneg x.value
  have hyabs := abs_nonneg y.value
  rw [value_eq_abs x, value_eq_abs y]
  unfold key
  generalize |x.value| = a at *
  generalize |y.value| = b at *
  cases x.isNegative <;> cases y.isNegative <;> simp only [if_true, if_false, Bool.false_eq_true]
  · exact Int.ofNat_lt.trans hlt
  · exact iff_of_false (by omega) (by linarith)
  · -- A number with a sign is the smaller one, unless both are zeros.
    have hiff : -(x.magnitude : Int) < y.magnitude ↔ 0 < x.magnitude ∨ 0 < y.magnitude := by omega
    rw [hiff, hx, hy]
    constructor
    · rintro (ha | hb) <;> linarith
    · intro h
      by_contra hne
      rw [not_or, not_lt, not_lt] at hne
      linarith
  · rw [Int.neg_lt_neg_iff, Int.ofNat_lt, hgt, neg_lt_neg_iff]

/-- The exact value of a number that is not a NaN. The infinities stand below and above all others. -/
def extended (x : Double) : WithBot (WithTop ℚ) :=
  if x.isInfinite then if x.isNegative then ⊥ else ⊤ else ((x.value : WithTop ℚ) : WithBot (WithTop ℚ))

/-- The infinities lie where the next number behind the finite ones would be.

**Proof sketch.** The magnitude of an infinity has the value `2 ^ 1024`, and all smaller magnitudes have
smaller values. -/
lemma extended_cases (h : x.isNaN = false) :
    x.extended = ⊥ ∧ x.value = -2 ^ 1024 ∨ x.extended = ⊤ ∧ x.value = 2 ^ 1024 ∨
      x.extended = ((x.value : WithTop ℚ) : WithBot (WithTop ℚ)) ∧
        -2 ^ 1024 < x.value ∧ x.value < 2 ^ 1024 := by
  have hle : x.magnitude ≤ infiniteMagnitude := Nat.not_lt.mp (of_decide_eq_false h)
  have hmagnitude : (infinity false).magnitude = infiniteMagnitude := by decide
  have hinfinite : |(infinity false).value| = 2 ^ 1024 := by
    rw [abs_value, show (infinity false).significand = 2 ^ 52 by decide,
      show (infinity false).exponent = ((972 : Nat) : Int) by decide, zpow_natCast, Nat.cast_pow,
      Nat.cast_ofNat, ← pow_add]
  unfold extended
  -- An infinity has the magnitude that is next to the finite ones.
  rcases Nat.eq_or_lt_of_le hle with heq | hlt
  · have habs : |x.value| = 2 ^ 1024 :=
      (abs_value_of_magnitude_eq (heq.trans hmagnitude.symm)).trans hinfinite
    have hvalue := x.value_eq_abs
    rw [habs] at hvalue
    rw [if_pos (show x.isInfinite = true from decide_eq_true heq)]
    cases hsign : x.isNegative <;> simp [hvalue, hsign]
  · have habs : |x.value| < 2 ^ 1024 :=
      hinfinite ▸ abs_value_lt_of_magnitude_lt (hlt.trans_eq hmagnitude.symm)
    rw [if_neg (by simpa [isInfinite] using hlt.ne)]
    exact .inr (.inr ⟨rfl, abs_lt.mp habs⟩)

/-- Exact values, with the infinities, are in the order of the values.

**Proof sketch.** Each of the numbers is one of the two infinities or finite. -/
lemma extended_lt_extended_iff (hx : x.isNaN = false) (hy : y.isNaN = false) :
    x.extended < y.extended ↔ x.value < y.value := by
  have hbound : (0 : ℚ) < 2 ^ 1024 := by positivity
  rcases extended_cases hx with ⟨hx, hxvalue⟩ | ⟨hx, hxvalue⟩ | ⟨hx, hxlow, hxhigh⟩ <;>
    rcases extended_cases hy with ⟨hy, hyvalue⟩ | ⟨hy, hyvalue⟩ | ⟨hy, hylow, hyhigh⟩ <;>
    generalize (2 : ℚ) ^ 1024 = b at * <;> rw [hx, hy]
  · exact iff_of_false not_lt_bot (by linarith)
  · exact iff_of_true bot_lt_top (by linarith)
  · exact iff_of_true (WithBot.bot_lt_coe _) (by linarith)
  · exact iff_of_false not_lt_bot (by linarith)
  · exact iff_of_false not_top_lt (by linarith)
  · exact iff_of_false not_top_lt (by linarith)
  · exact iff_of_false not_lt_bot (by linarith)
  · exact iff_of_true (WithBot.coe_lt_coe.mpr (WithTop.coe_lt_top _)) (by linarith)
  · rw [WithBot.coe_lt_coe, WithTop.coe_lt_coe]

/-- Two numbers compare as their exact values do. -/
lemma compare?_eq_cmp (hx : x.isNaN = false) (hy : y.isNaN = false) :
    x.compare? y = some (cmp x.extended y.extended) := by
  have hlt := (extended_lt_extended_iff hx hy).trans key_lt_key_iff.symm
  have hgt := (extended_lt_extended_iff hy hx).trans key_lt_key_iff.symm
  rw [compare?_of_not_isNaN hx hy, ← cmp_eq_compare]
  unfold cmp cmpUsing
  simp only [hlt, hgt]

/-- Numbers are equal if neither is a NaN and they have one key. -/
lemma eq_iff : x.eq y = true ↔ x.isNaN = false ∧ y.isNaN = false ∧ x.key = y.key := by
  unfold eq compare?
  cases x.isNaN <;> cases y.isNaN <;> simp

end Formula.Double
