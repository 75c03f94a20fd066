import Formula.Decimal.Basic
import Formula.Proofs.Double.Rounding
import Mathlib.Tactic.NormNum.Pow

set_option autoImplicit false

/-!
# Decimals are rounded by their values

The number nearest to a decimal depends on the exact value of the decimal alone. So it does not change
when trailing zeros are dropped, and the shortest decimal of a number is rounded to the number.

## Main definitions

* `Formula.Decimal.value` — the exact value of a decimal.

## Main results

* `Formula.Decimal.toDouble_eq_nearest` — what is rounded is the exact value.
* `Formula.Decimal.toDouble_shortest` — the shortest decimal of a number is rounded to the number.
-/

namespace Formula

namespace Decimal

variable {negative : Bool} {d : Decimal} {x : Double} {tie : Tie}

/-- The exact value of a decimal. -/
def value (d : Decimal) : ℚ :=
  d.digits * 10 ^ d.exponent

/-- Dropping trailing zeros keeps the value.

**Proof sketch.** Induction along the steps. A zero that is dropped is a factor of ten, which the
exponent takes. -/
lemma value_strip (d : Decimal) : d.strip.value = d.value := by
  fun_induction strip d with
  | case1 d h ih =>
    obtain ⟨n, hn⟩ := Nat.dvd_of_mod_eq_zero h.2
    rw [ih, value, value, hn, Nat.mul_div_cancel_left n (by decide), zpow_add_one₀ (by norm_num)]
    push_cast
    ring
  | case2 d h => rfl

/-- The exact decimal of a number has its absolute value: a half is five tenths.

**Proof sketch.** A positive exponent of two is a factor, and a negative one is a power of five with as
many places. -/
lemma value_exact (x : Double) : (exact x).value = |x.value| := by
  rw [Double.abs_value]
  unfold exact value
  split
  · next h =>
    obtain ⟨n, hn⟩ := Int.eq_ofNat_of_zero_le h
    simp [hn]
  · next h =>
    obtain ⟨n, hn⟩ := Int.eq_ofNat_of_zero_le (Int.neg_nonneg.mpr (Int.le_of_not_le h))
    have hexponent : x.exponent = -(n : Int) := by omega
    rw [hexponent, Int.neg_neg, Int.toNat_natCast, zpow_neg, zpow_neg, zpow_natCast, zpow_natCast]
    push_cast [Nat.pow_eq]
    rw [show (10 : ℚ) = 2 * 5 by norm_num, mul_pow]
    field_simp

/-- Where exponents alone make a decimal infinite, it lies beyond the finite numbers. -/
lemma two_zpow_lt_ten_zpow : (2 : ℚ) ^ (1024 : ℤ) < 10 ^ (310 : ℤ) := by
  have h : 2 ^ 1024 < 10 ^ 310 := by decide +kernel
  exact_mod_cast h

/-- Below `10 ^ -400` a decimal lies below half the least unit. -/
lemma ten_zpow_lt_two_zpow : (10 : ℚ) ^ (-400 : ℤ) < 2 ^ (-1075 : ℤ) := by
  have h : 2 ^ 1075 < 10 ^ 400 := by decide +kernel
  rw [zpow_neg, zpow_neg]
  exact inv_strictAnti₀ (zpow_pos two_pos _) (mod_cast h)

/-- A number has no more decimal digits than binary ones. -/
lemma natCast_lt_ten_zpow (n : ℕ) : (n : ℚ) < 10 ^ (n.log2 + 1 : ℤ) := by
  have h : n < 10 ^ (n.log2 + 1) :=
    Nat.lt_log2_self.trans_le (Nat.pow_le_pow_left (by decide) _)
  exact_mod_cast h

/-- What is rounded is the exact value.

**Proof sketch.** Exponents that are far too large or far too small are rounded to an infinity or to
zero, as their values are. In between the decimal is rounded as a fraction. -/
lemma toDouble_eq_nearest (negative : Bool) (d : Decimal) :
    d.toDouble negative = Double.nearest negative d.value := by
  have hpow (e : ℤ) : (0 : ℚ) < 10 ^ e := zpow_pos (by norm_num) e
  unfold toDouble
  split
  · next h => simp [Double.nearest, value, h]
  · next hdigits =>
    have hone : (1 : ℚ) ≤ d.digits := mod_cast Nat.one_le_iff_ne_zero.mpr hdigits
    split
    · next h =>
      refine (Double.nearest_of_le ?_).symm
      -- Such a decimal is greater than every double.
      calc (2 : ℚ) ^ (1024 : ℤ) ≤ 10 ^ (310 : ℤ) := two_zpow_lt_ten_zpow.le
        _ ≤ 10 ^ d.exponent := zpow_le_zpow_right₀ (by norm_num) h
        _ ≤ d.value := le_mul_of_one_le_left (hpow _).le hone
    · split
      · next h =>
        refine (Double.nearest_of_lt (mul_nonneg (Nat.cast_nonneg _) (hpow _).le) ?_).symm
        -- Such a decimal is less than half of the least double.
        calc d.value < 10 ^ (d.digits.log2 + 1 : ℤ) * 10 ^ d.exponent :=
              mul_lt_mul_of_pos_right (natCast_lt_ten_zpow _) (hpow _)
          _ = 10 ^ (d.digits.log2 + 1 + d.exponent : ℤ) := (zpow_add₀ (by norm_num) _ _).symm
          _ ≤ 10 ^ (-400 : ℤ) := zpow_le_zpow_right₀ (by norm_num) (by omega)
          _ < 2 ^ (-1075 : ℤ) := ten_zpow_lt_two_zpow
      · rw [Double.ofRatio_eq_nearest negative _ (by simp) 0, zpow_zero, mul_one, value,
          Double.zpow_eq_div (by norm_num), mul_div_assoc']
        simp

/-- Decimals with one value are rounded to one number. -/
lemma toDouble_congr {d d' : Decimal} (h : d.value = d'.value) :
    d.toDouble negative = d'.toDouble negative := by
  rw [toDouble_eq_nearest, toDouble_eq_nearest, h]

/-- The exact decimal of a finite number is rounded to the number. -/
lemma toDouble_exact (h : x.isFinite = true) : (exact x).toDouble x.isNegative = x := by
  rw [toDouble_eq_nearest, value_exact, Double.nearest_abs_value h]

/-- A neighbour that is taken from a grid is read back.

**Proof sketch.** Of the two neighbours on the grid, only those that are read back are taken. -/
lemma toDouble_of_onGrid? {place : ℤ} (h : onGrid? tie x place = some d) : d.toDouble false = x := by
  unfold onGrid? at h
  dsimp only at h
  split at h
  · next hbelow habove =>
    obtain rfl := Option.some.inj h
    split
    · exact eq_of_beq hbelow
    · exact eq_of_beq habove
  · next hbelow _ =>
    obtain rfl := Option.some.inj h
    exact eq_of_beq hbelow
  · next _ habove =>
    obtain rfl := Option.some.inj h
    exact eq_of_beq habove
  · cases h

/-- The shortest decimal of a finite number is rounded to the number: it is found on a grid, or it is the
exact one, and trailing zeros do not matter.

**Proof sketch.** The search finds a decimal on some grid, which is read back, or it gives the exact
one. -/
lemma toDouble_shortest (h : x.isFinite = true) : (shortest tie x).toDouble x.isNegative = x := by
  -- The search is for the absolute value, and the sign comes back with the magnitude.
  obtain ⟨y, hy⟩ : ∃ y, y = Double.ofMagnitude false x.magnitude := ⟨_, rfl⟩
  have hmagnitude : y.isNegative = false ∧ y.magnitude = x.magnitude := by
    rw [hy]
    exact Double.fields_ofMagnitude ((of_decide_eq_true h).trans (by decide))
  have hfinite : y.isFinite = true := by
    rwa [Double.isFinite, hmagnitude.2]
  have hfalse : (shortest tie x).toDouble false = y := by
    unfold shortest
    rw [← hy, toDouble_congr (value_strip _)]
    generalize List.map _ _ = places
    cases hgrid : places.findSome? (onGrid? tie y) with
    | none =>
      have hexact := toDouble_exact hfinite
      rwa [hmagnitude.1] at hexact
    | some d =>
      obtain ⟨place, -, hplace⟩ := List.exists_of_findSome?_eq_some hgrid
      exact toDouble_of_onGrid? hplace
  rw [toDouble_eq_nearest, Double.nearest_eq_ofMagnitude, ← toDouble_eq_nearest, hfalse, hmagnitude.2,
    Double.ofMagnitude_magnitude]

end Decimal

end Formula
