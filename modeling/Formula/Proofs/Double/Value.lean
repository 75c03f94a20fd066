import Formula.Double.Arithmetic
import Formula.Proofs.Double.Basic
import Mathlib.Algebra.Order.Ring.Rat
import Mathlib.Algebra.Order.Field.Basic
import Mathlib.Tactic.Ring

set_option autoImplicit false

/-!
# The exact value of a number

A finite number stands for a signed significand times a power of two. If this is an integer, it is found
by dividing the significand, which leaves no remainder, or by multiplying it.

## Main definitions

* `Formula.Double.value` — the rational number that a finite number stands for.

## Main results

* `Formula.Double.toInt?_eq_some_iff` — which integer a number is equal to.
-/

namespace Formula.Double

variable {x : Double} {i : Int}

/-- The exact value of a finite number. -/
def value (x : Double) : ℚ :=
  x.signedSignificand * 2 ^ x.exponent

/-- A power with an integer exponent, as a fraction of two powers. -/
lemma zpow_eq_div {q : ℚ} (hq : q ≠ 0) (e : Int) : q ^ e = q ^ e.toNat / q ^ (-e).toNat := by
  rw [← zpow_natCast, ← zpow_natCast, ← zpow_sub₀ hq, Int.toNat_sub_toNat_neg]

/-- The value is an integer if both agree when they are scaled to integers. -/
lemma value_eq_intCast_iff :
    x.value = i ↔ x.signedSignificand * 2 ^ x.exponent.toNat = i * 2 ^ (-x.exponent).toNat := by
  have hpos : (2 : ℚ) ^ (-x.exponent).toNat ≠ 0 := pow_ne_zero _ two_ne_zero
  rw [value, zpow_eq_div two_ne_zero, ← mul_div_assoc, div_eq_iff hpos]
  exact_mod_cast Iff.rfl

/-- The absolute value of the significand with its sign is the significand. -/
lemma natAbs_signedSignificand (x : Double) : x.signedSignificand.natAbs = x.significand := by
  unfold signedSignificand
  split <;> simp

/-- The integer of a number is its exact value.

**Proof sketch.** Without a remainder the division is exact. -/
lemma value_of_toInt? (h : x.toInt? = some i) : x.value = i := by
  have hfinite := isFinite_of_toInt? h
  rw [value_eq_intCast_iff]
  unfold toInt? at h
  simp only [hfinite, Bool.not_true, Bool.false_eq_true, if_false, Nat.pow_eq] at h
  split at h
  · next hmod =>
    obtain ⟨n, hn⟩ := Nat.dvd_of_mod_eq_zero hmod
    rw [hn, Nat.mul_div_cancel_left _ (Nat.two_pow_pos _)] at h
    obtain rfl := Option.some.inj h
    unfold signedSignificand
    rw [hn]
    split <;> push_cast <;> ring
  · cases h

/-- A number whose exact value is an integer has one: the power of two that divides its significand
leaves no remainder.

**Proof sketch.** One of the two powers of two is `1`, so the other one divides the significand. -/
lemma exists_toInt? (hfinite : x.isFinite = true) (h : x.value = i) : ∃ j, x.toInt? = some j := by
  have hsame := congrArg Int.natAbs (value_eq_intCast_iff.mp h)
  rw [Int.natAbs_mul, Int.natAbs_mul, natAbs_signedSignificand, Int.natAbs_pow, Int.natAbs_pow] at hsame
  have hdvd : 2 ^ (-x.exponent).toNat ∣ x.significand := by
    -- Only one of the two powers is not `1`.
    rcases (by omega : x.exponent.toNat = 0 ∨ (-x.exponent).toNat = 0) with hup | hdown
    · rw [hup, pow_zero, mul_one] at hsame
      exact Dvd.intro_left _ hsame.symm
    · rw [hdown, pow_zero]
      exact one_dvd _
  simp [toInt?, hfinite, Nat.mod_eq_zero_of_dvd hdvd]

/-- Which integer a number is equal to.

**Proof sketch.** The integer of a number is its value, and integers with one value are the same. -/
theorem toInt?_eq_some_iff : x.toInt? = some i ↔ x.isFinite = true ∧ x.value = i := by
  constructor
  · exact fun h => ⟨isFinite_of_toInt? h, value_of_toInt? h⟩
  · rintro ⟨hfinite, hvalue⟩
    obtain ⟨j, hj⟩ := exists_toInt? hfinite hvalue
    have hsame : (j : ℚ) = i := (value_of_toInt? hj).symm.trans hvalue
    rw [hj, Int.cast_injective hsame]

end Formula.Double
