import Formula.Proofs.Double.Order
import Mathlib.Algebra.Order.Floor.Semifield
import Mathlib.Data.Int.Log
import Mathlib.Data.Rat.Floor
import Mathlib.Tactic.FieldSimp
import Mathlib.Tactic.Linarith
import Mathlib.Tactic.Positivity

set_option autoImplicit false

/-!
# Rounding exact values

The nearest number to a significand times a power of two, and the nearest number to a quotient, depend on
the exact value alone, and not on how it is written.

## Main definitions

* `Formula.Double.roundEven` — the nearest natural number, ties to even.
* `Formula.Double.unitExponent` — the power of two that is the unit of the number nearest to a value.
* `Formula.Double.nearest` — the number nearest to a rational number, with a sign.

## Main results

* `Formula.Double.ofScaled_eq_nearest`, `Formula.Double.ofRatio_eq_nearest` — what is rounded is the
  exact value.
* `Formula.Double.nearest_abs_value` — the value of a number is rounded to the number.
* `Formula.Double.value_ofScaled` — a significand of at most 53 bits is not changed by rounding.
-/

namespace Formula.Double

variable {negative : Bool} {p q : ℚ}

/-! ## Natural numbers -/

/-- The nearest natural number, ties to even. -/
def roundEven (q : ℚ) : ℕ :=
  if 1 / 2 < q - ⌊q⌋₊ ∨ (q - ⌊q⌋₊ = 1 / 2 ∧ ⌊q⌋₊ % 2 = 1) then ⌊q⌋₊ + 1 else ⌊q⌋₊

/-- Rounding does not go below the floor. -/
lemma floor_le_roundEven (q : ℚ) : ⌊q⌋₊ ≤ roundEven q := by
  unfold roundEven
  split <;> omega

/-- Natural numbers are rounded to themselves. -/
lemma roundEven_natCast (n : ℕ) : roundEven n = n := by
  unfold roundEven
  rw [Nat.floor_natCast, sub_self, if_neg (by norm_num)]

/-- Shifting rounds the quotient by a power of two.

**Proof sketch.** The quotient is what is shifted, and the remainder over the power of two is what is
left of the value. So comparing the remainder with half the power is comparing the rest with a half. -/
lemma roundShift_eq_roundEven (m s : ℕ) : roundShift m s = roundEven (m / 2 ^ s) := by
  have hpos : (0 : ℚ) < 2 ^ s := by positivity
  have hfloor : ⌊(m : ℚ) / 2 ^ s⌋₊ = m / 2 ^ s := by
    have := Nat.floor_div_eq_div (K := ℚ) m (2 ^ s)
    rwa [Nat.cast_pow, Nat.cast_ofNat] at this
  have hrest : (m : ℚ) / 2 ^ s - (m / 2 ^ s : ℕ) = (m % 2 ^ s : ℕ) / 2 ^ s := by
    have hdiv : (m : ℚ) = 2 ^ s * (m / 2 ^ s : ℕ) + (m % 2 ^ s : ℕ) := by
      exact_mod_cast (Nat.div_add_mod m (2 ^ s)).symm
    rw [sub_eq_iff_eq_add, div_eq_iff hpos.ne', add_mul, div_mul_cancel₀ _ hpos.ne']
    linarith
  have hmore : 1 / 2 < ((m % 2 ^ s : ℕ) : ℚ) / 2 ^ s ↔ 2 ^ s < 2 * (m % 2 ^ s) := by
    rw [div_lt_div_iff₀ two_pos hpos, one_mul, mul_comm]
    exact_mod_cast Iff.rfl
  have htie : ((m % 2 ^ s : ℕ) : ℚ) / 2 ^ s = 1 / 2 ↔ 2 * (m % 2 ^ s) = 2 ^ s := by
    rw [div_eq_div_iff hpos.ne' two_ne_zero, one_mul, mul_comm]
    exact_mod_cast Iff.rfl
  unfold roundShift roundEven
  simp only [Nat.pow_eq, hfloor, hrest, hmore, htie]

/-! ## Values beside each other -/

/-- No natural number lies between the two values or is equal to one of them only. -/
def SamePlace (p q : ℚ) : Prop :=
  ∀ n : ℕ, (p < n ↔ q < n) ∧ (n < p ↔ n < q)

/-- Values in one place stay in one place when they are divided by a power of two. -/
lemma SamePlace.div_two_pow (h : SamePlace p q) (s : ℕ) : SamePlace (p / 2 ^ s) (q / 2 ^ s) := by
  intro n
  have hpos : (0 : ℚ) < 2 ^ s := by positivity
  have hn := h (n * 2 ^ s)
  push_cast at hn
  rwa [div_lt_iff₀ hpos, div_lt_iff₀ hpos, lt_div_iff₀ hpos, lt_div_iff₀ hpos]

/-- Rounding only looks at the place among the halves of natural numbers.

**Proof sketch.** The floor of a value is determined by the natural numbers below it, and whether the
rest exceeds a half, or is one, by the odd number that follows twice the floor. -/
lemma SamePlace.roundEven_eq (hp : 0 ≤ p) (hq : 0 ≤ q) (h : SamePlace (2 * p) (2 * q)) :
    roundEven p = roundEven q := by
  have hfloor : ⌊p⌋₊ = ⌊q⌋₊ := by
    refine eq_of_forall_le_iff fun n => ?_
    have hn := (h (2 * n)).1
    push_cast at hn
    rw [Nat.le_floor_iff hp, Nat.le_floor_iff hq, ← not_lt, ← not_lt]
    constructor <;> intro hlt <;> contrapose! hlt
    · linarith [hn.mpr (by linarith)]
    · linarith [hn.mp (by linarith)]
  obtain ⟨hbelow, habove⟩ := h (2 * ⌊q⌋₊ + 1)
  push_cast at hbelow habove
  have hmore : 1 / 2 < p - ⌊q⌋₊ ↔ 1 / 2 < q - ⌊q⌋₊ := by
    constructor <;> intro hlt
    · linarith [habove.mp (by linarith)]
    · linarith [habove.mpr (by linarith)]
  have hless : p - ⌊q⌋₊ < 1 / 2 ↔ q - ⌊q⌋₊ < 1 / 2 := by
    constructor <;> intro hlt
    · linarith [hbelow.mp (by linarith)]
    · linarith [hbelow.mpr (by linarith)]
  have htie : p - ⌊q⌋₊ = 1 / 2 ↔ q - ⌊q⌋₊ = 1 / 2 := by
    rw [eq_iff_le_not_lt, eq_iff_le_not_lt, ← not_lt, ← not_lt, hless, hmore]
  unfold roundEven
  simp only [hfloor, hmore, htie]

/-! ## The binary logarithm -/

/-- A power of two is at most a value if its exponent is at most the binary logarithm. -/
lemma le_log_iff (hq : 0 < q) {z : ℤ} : z ≤ Int.log 2 q ↔ 2 ^ z ≤ q :=
  mod_cast (Int.zpow_le_iff_le_log (R := ℚ) Nat.one_lt_two hq).symm

/-- A power of two exceeds a value if its exponent exceeds the binary logarithm. -/
lemma log_lt_iff (hq : 0 < q) {z : ℤ} : Int.log 2 q < z ↔ q < 2 ^ z :=
  mod_cast (Int.lt_zpow_iff_log_lt (R := ℚ) Nat.one_lt_two hq).symm

/-- The binary logarithm of a value between two powers of two. -/
lemma log_eq_of_zpow_le {z : ℤ} (hle : 2 ^ z ≤ q) (hlt : q < 2 ^ (z + 1)) : Int.log 2 q = z := by
  have hpos : 0 < q := lt_of_lt_of_le (zpow_pos two_pos z) hle
  have hle' := (le_log_iff hpos).mpr hle
  have hlt' := (log_lt_iff hpos).mpr hlt
  omega

/-- The power of two with the binary logarithm is at most the value. -/
lemma zpow_log_le (hq : 0 < q) : (2 : ℚ) ^ Int.log 2 q ≤ q :=
  (le_log_iff hq).mp le_rfl

/-- The next power of two exceeds the value. -/
lemma lt_zpow_log (hq : 0 < q) : q < 2 ^ (Int.log 2 q + 1) :=
  (log_lt_iff hq).mp (Int.lt_add_one_of_le le_rfl)

/-- The binary logarithm of a value times a power of two.

**Proof sketch.** The value lies between two powers of two, and so does the product. -/
lemma log_mul_zpow (hq : 0 < q) (e : ℤ) : Int.log 2 (q * 2 ^ e) = Int.log 2 q + e := by
  have hpos : (0 : ℚ) < 2 ^ e := zpow_pos two_pos e
  refine log_eq_of_zpow_le ?_ ?_
  · rw [zpow_add₀ two_ne_zero]
    exact mul_le_mul_of_nonneg_right (zpow_log_le hq) hpos.le
  · rw [add_right_comm, zpow_add₀ two_ne_zero]
    exact mul_lt_mul_of_pos_right (lt_zpow_log hq) hpos

/-- For natural numbers it is the logarithm of the core library. -/
lemma log_natCast_eq_log2 (m : ℕ) : Int.log 2 (m : ℚ) = m.log2 := by
  rw [Int.log_natCast, Nat.log2_eq_log_two]

/-! ## The nearest number -/

/-- The power of two that is the unit of the number nearest to a value: the least that leaves at most 53
bits and is not below the unit of the subnormal numbers. -/
def unitExponent (q : ℚ) : ℤ :=
  Max.max (Int.log 2 q - 52) (-1074)

/-- The magnitude of the number nearest to a positive value. A significand that rounds up to `2 ^ 53`
carries into the exponent, and what is too great is infinite. -/
def nearestMagnitude (q : ℚ) : ℕ :=
  Min.min ((unitExponent q + 1074).toNat * 0x10000000000000 + roundEven (q / 2 ^ unitExponent q))
    infiniteMagnitude

/-- The number nearest to a value that is not negative, with a sign. -/
def nearest (negative : Bool) (q : ℚ) : Double :=
  if q = 0 then zero negative else ofMagnitude negative (nearestMagnitude q)

/-- A quotient of powers of two is a power of two. -/
lemma zpow_sub_toNat {a b : ℤ} (h : b ≤ a) : (2 : ℚ) ^ (a - b).toNat = 2 ^ a / 2 ^ b := by
  rw [← zpow_natCast, Int.toNat_of_nonneg (Int.sub_nonneg.mpr h), zpow_sub₀ two_ne_zero]

/-- The nearest number to a significand times a power of two is that to its value.

**Proof sketch.** The exponent of the unit is the same on both sides. Moving the significand to the unit
is a multiplication if the unit is smaller and a rounding shift if it is greater, and in both cases it
rounds the quotient. -/
lemma ofScaled_eq_nearest (negative : Bool) (m : ℕ) (e : ℤ) :
    ofScaled negative m e = nearest negative (m * 2 ^ e) := by
  have hzpow (e : ℤ) : (2 : ℚ) ^ e ≠ 0 := zpow_ne_zero e two_ne_zero
  by_cases hm : m = 0
  · simp [ofScaled, nearest, hm]
  · have hcast : (m : ℚ) ≠ 0 := Nat.cast_ne_zero.mpr hm
    have hunit : unitExponent (m * 2 ^ e) = Max.max (e + m.log2 - 52) (-1074) := by
      rw [unitExponent, log_mul_zpow (Nat.cast_pos.mpr (Nat.pos_of_ne_zero hm)), log_natCast_eq_log2,
        Int.add_comm e]
    unfold ofScaled nearest nearestMagnitude
    rw [if_neg hm, if_neg (mul_ne_zero hcast (hzpow e)), hunit]
    dsimp only
    generalize Max.max (e + (m.log2 : ℤ) - 52) (-1074) = u
    congr 3
    split
    · next h =>
      have hnat : (m : ℚ) * 2 ^ e / 2 ^ u = (m * 2 ^ (e - u).toNat : ℕ) := by
        rw [mul_div_assoc, ← zpow_sub_toNat h, Nat.cast_mul, Nat.cast_pow, Nat.cast_ofNat]
      rw [hnat, roundEven_natCast, Nat.pow_eq]
    · next h =>
      rw [roundShift_eq_roundEven, zpow_sub_toNat (Int.le_of_not_le h), div_div_eq_mul_div]

/-- Values in one place have one binary logarithm, if it is that of a natural number.

**Proof sketch.** Both powers of two that bound the one value are natural numbers, so they bound the
other one. -/
lemma SamePlace.log_eq {k : ℕ} (h : SamePlace p q) (hp : 0 < p) (hk : Int.log 2 p = k) :
    Int.log 2 q = k := by
  have hle := zpow_log_le hp
  have hlt := lt_zpow_log hp
  rw [hk] at hle hlt
  have hlow := (h (2 ^ k)).1
  have hhigh := (h (2 ^ (k + 1))).1
  push_cast at hlow hhigh
  refine log_eq_of_zpow_le ?_ (mod_cast hhigh.mp (mod_cast hlt))
  exact_mod_cast not_lt.mp (mt hlow.mpr (not_lt.mpr (mod_cast hle)))

/-- A value of at least 55 bits has at least two bits below its unit, so that only its place among the
natural numbers matters.

**Proof sketch.** Both values have the same binary logarithm, so the same unit, which is two bits above
the lowest bit at least. Rounding looks at the place among halves of the unit only
(`SamePlace.roundEven_eq`), and values in one place stay so when they are divided
(`SamePlace.div_two_pow`). -/
lemma nearest_congr (hp : 2 ^ 54 ≤ p) (h : SamePlace p q) (e : ℤ) :
    nearest negative (p * 2 ^ e) = nearest negative (q * 2 ^ e) := by
  have hppos : 0 < p := lt_of_lt_of_le (by positivity) hp
  have hq : 0 < q := by
    have hone := (h 1).2.mp (by norm_num at hp ⊢; linarith)
    push_cast at hone
    linarith
  have hlog : 54 ≤ Int.log 2 p := (le_log_iff hppos).mpr (mod_cast hp)
  obtain ⟨k, hk⟩ := Int.eq_ofNat_of_zero_le (a := Int.log 2 p) (by omega)
  have hunit : unitExponent (q * 2 ^ e) = unitExponent (p * 2 ^ e) := by
    rw [unitExponent, unitExponent, log_mul_zpow hq, log_mul_zpow hppos, h.log_eq hppos hk, hk]
  obtain ⟨s, hs⟩ : ∃ s : ℕ, unitExponent (p * 2 ^ e) = e + (s + 1 : ℕ) := by
    have hle : Int.log 2 p + e - 52 ≤ unitExponent (p * 2 ^ e) := by
      rw [unitExponent, log_mul_zpow hppos]
      exact le_max_left _ _
    exact ⟨(unitExponent (p * 2 ^ e) - e - 1).toNat, by omega⟩
  have hdiv (r : ℚ) : r * 2 ^ e / 2 ^ (e + (s + 1 : ℕ)) = r / 2 ^ (s + 1) := by
    rw [zpow_add₀ two_ne_zero, zpow_natCast, mul_comm r,
      mul_div_mul_left _ _ (zpow_ne_zero e two_ne_zero)]
  have hhalf (r : ℚ) : 2 * (r / 2 ^ (s + 1)) = r / 2 ^ s := by
    rw [pow_succ]
    field_simp
  have hround : roundEven (p / 2 ^ (s + 1)) = roundEven (q / 2 ^ (s + 1)) := by
    refine SamePlace.roundEven_eq (by positivity) (by positivity) ?_
    rw [hhalf, hhalf]
    exact h.div_two_pow s
  have hzpow : (2 : ℚ) ^ e ≠ 0 := zpow_ne_zero e two_ne_zero
  rw [nearest, nearest, if_neg (mul_ne_zero hppos.ne' hzpow), if_neg (mul_ne_zero hq.ne' hzpow),
    nearestMagnitude, nearestMagnitude, hunit, hs, hdiv, hdiv, hround]

/-- A quotient that is rounded down lies beside its value, if a half is added where something is left
over.

**Proof sketch.** A natural number is compared with the quotient as it is compared with the value,
unless the two are equal, and then the half says whether something is left over. -/
lemma samePlace_quotient (n : ℕ) {d : ℕ} (hd : d ≠ 0) :
    SamePlace (n / d) (((2 * (n / d) + if n % d = 0 then 0 else 1 : ℕ) : ℚ) / 2) := by
  have hpos : (0 : ℚ) < d := Nat.cast_pos.mpr (Nat.pos_of_ne_zero hd)
  have hdiv := Nat.div_add_mod n d
  have hmod := Nat.mod_lt n (Nat.pos_of_ne_zero hd)
  intro c
  rw [div_lt_iff₀ hpos, lt_div_iff₀ hpos, div_lt_iff₀ two_pos, lt_div_iff₀ two_pos]
  norm_cast
  rw [Nat.mul_comm] at hdiv
  generalize n / d = w at *
  generalize n % d = r at *
  rcases Nat.lt_trichotomy c w with hlt | rfl | hgt
  · have hle := Nat.mul_le_mul_right d hlt
    rw [Nat.succ_mul] at hle
    split <;> omega
  · split <;> omega
  · have hle := Nat.mul_le_mul_right d hgt
    rw [Nat.succ_mul] at hle
    split <;> omega

/-- The shift that is chosen for a quotient leaves at least 55 bits of it.

**Proof sketch.** The shift makes the numerator at least 55 bits longer than the denominator. -/
lemma le_scaled_quotient {n d : ℕ} (hn : n ≠ 0) (hd : d ≠ 0) :
    (2 : ℚ) ^ 54 ≤ (n * 2 ^ (d.log2 + 55 - n.log2) : ℕ) / d := by
  have hpos : (0 : ℚ) < d := Nat.cast_pos.mpr (Nat.pos_of_ne_zero hd)
  rw [le_div_iff₀ hpos]
  norm_cast
  calc 2 ^ 54 * d ≤ 2 ^ 54 * 2 ^ (d.log2 + 1) := Nat.mul_le_mul_left _ Nat.lt_log2_self.le
    _ = 2 ^ (d.log2 + 55) := by rw [← Nat.pow_add]; congr 1; omega
    _ ≤ 2 ^ (n.log2 + (d.log2 + 55 - n.log2)) := Nat.pow_le_pow_right Nat.two_pos (by omega)
    _ = 2 ^ n.log2 * 2 ^ (d.log2 + 55 - n.log2) := Nat.pow_add ..
    _ ≤ n * 2 ^ (d.log2 + 55 - n.log2) := Nat.mul_le_mul_right _ (Nat.log2_self_le hn)

/-- The nearest number to a quotient is that to its value.

**Proof sketch.** The quotient that is rounded lies in one place with the value (`samePlace_quotient`),
and it has at least 55 bits (`le_scaled_quotient`). So the nearest number is the same (`nearest_congr`). -/
lemma ofRatio_eq_nearest (negative : Bool) (n : ℕ) {d : ℕ} (hd : d ≠ 0) (e : ℤ) :
    ofRatio negative n d e = nearest negative (n / d * 2 ^ e) := by
  by_cases hn : n = 0
  · simp [ofRatio, nearest, hn]
  · have hquotient := le_scaled_quotient hn hd
    unfold ofRatio
    rw [if_neg hn]
    dsimp only [Nat.pow_eq]
    generalize d.log2 + 55 - n.log2 = shift at *
    have hplace := samePlace_quotient (n * 2 ^ shift) hd
    generalize 2 * (n * 2 ^ shift / d) + (if n * 2 ^ shift % d = 0 then 0 else 1) = m at *
    have hvalue : (n : ℚ) / d * 2 ^ e = (n * 2 ^ shift : ℕ) / d * 2 ^ (e - shift) := by
      rw [zpow_sub₀ two_ne_zero, zpow_natCast]
      push_cast
      field_simp
    have hhalf : (m : ℚ) * 2 ^ (e - shift - 1) = m / 2 * 2 ^ (e - shift) := by
      rw [zpow_sub_one₀ two_ne_zero]
      ring
    rw [ofScaled_eq_nearest, hvalue, hhalf]
    exact (nearest_congr hquotient hplace (e - shift)).symm

/-! ## Beyond the finite numbers -/

/-- From `2 ^ 1024` on the nearest number is infinite.

**Proof sketch.** The significand has its leading bit, so the exponent alone makes the magnitude too
great. -/
lemma nearest_of_le (h : 2 ^ (1024 : ℤ) ≤ q) : nearest negative q = infinity negative := by
  have hpos : 0 < q := lt_of_lt_of_le (zpow_pos two_pos _) h
  have hlog : 1024 ≤ Int.log 2 q := (le_log_iff hpos).mpr h
  have hunit : unitExponent q = Int.log 2 q - 52 := max_eq_left (by omega)
  have hround : 2 ^ 52 ≤ roundEven (q / 2 ^ unitExponent q) := by
    refine le_trans (Nat.le_floor ?_) (floor_le_roundEven _)
    rw [hunit, zpow_sub₀ two_ne_zero, div_div_eq_mul_div, le_div_iff₀ (zpow_pos two_pos _), mul_comm]
    push_cast
    exact mul_le_mul_of_nonneg_right (zpow_log_le hpos) (by positivity)
  rw [nearest, if_neg hpos.ne', nearestMagnitude, Nat.min_eq_right, infinity]
  unfold infiniteMagnitude
  omega

/-- Below half the least unit the nearest number is zero.

**Proof sketch.** The unit is the least one, and less than half of it is rounded to zero. -/
lemma nearest_of_lt (hq : 0 ≤ q) (h : q < 2 ^ (-1075 : ℤ)) : nearest negative q = zero negative := by
  by_cases hzero : q = 0
  · rw [nearest, if_pos hzero]
  · have hpos : 0 < q := lt_of_le_of_ne hq (Ne.symm hzero)
    have hlog : Int.log 2 q < -1075 := (log_lt_iff hpos).mpr h
    have hunit : unitExponent q = -1074 := max_eq_right (by omega)
    have hhalf : q / 2 ^ (-1074 : ℤ) < 1 / 2 := by
      rw [div_lt_iff₀ (zpow_pos two_pos _)]
      refine lt_of_lt_of_eq h ?_
      rw [show (-1075 : ℤ) = -1074 - 1 by norm_num, zpow_sub_one₀ two_ne_zero]
      ring
    have hround : roundEven (q / 2 ^ (-1074 : ℤ)) = 0 := by
      have hfloor : ⌊q / 2 ^ (-1074 : ℤ)⌋₊ = 0 := Nat.floor_eq_zero.mpr (by linarith)
      rw [roundEven, hfloor, Nat.cast_zero, sub_zero, if_neg]
      rintro (hlt | ⟨-, hodd⟩)
      · linarith
      · omega
    rw [nearest, if_neg hzero, nearestMagnitude, hunit, hround]
    rfl

/-! ## Exact values -/

/-- The nearest number to the value of a number is that number. -/
lemma nearest_abs_value {x : Double} (h : x.isFinite = true) : nearest x.isNegative |x.value| = x := by
  rw [abs_value, ← ofScaled_eq_nearest]
  by_cases hzero : x.significand = 0
  · rw [hzero, ofScaled, if_pos rfl, ← eq_zero_of_isZero (isZero_of_significand_eq_zero hzero)]
  · have hself := ofScaled_eq_self (k := 0) h hzero (by rw [Nat.pow_zero, Nat.mul_one])
    rwa [Int.natCast_zero, Int.add_zero] at hself

/-- A number that is built from a sign and a magnitude has them.

**Proof sketch.** The sign is the highest bit, and the magnitude is what is below it. -/
lemma fields_ofMagnitude {m : ℕ} (h : m < 2 ^ 63) :
    (ofMagnitude negative m).isNegative = negative ∧ (ofMagnitude negative m).magnitude = m := by
  have hbits : (ofMagnitude negative m).bits.toNat = if negative then 2 ^ 63 + m else m := by
    unfold ofMagnitude
    rw [UInt64.toNat_ofNat_of_lt']
    · rfl
    · split <;> simp only [UInt64.size] <;> omega
  unfold isNegative magnitude
  rw [hbits]
  cases negative <;> simp <;> omega

/-- The sign is no part of what is rounded.

**Proof sketch.** Zero is written with the sign in any case, and otherwise the magnitude is bounded by
the infinite one. -/
lemma nearest_eq_ofMagnitude (negative : Bool) (q : ℚ) :
    nearest negative q = ofMagnitude negative (nearest false q).magnitude := by
  unfold nearest
  split
  · rfl
  · have hlt : nearestMagnitude q < 2 ^ 63 :=
      lt_of_le_of_lt (Nat.min_le_right _ _) (by decide)
    rw [(fields_ofMagnitude hlt).2]

/-- A number is built from its unit and its significand.

**Proof sketch.** The magnitude determines the exponent and the significand, since the significand
either has its leading bit or the exponent is the least one. -/
lemma value_ofMagnitude {e : ℤ} {r : ℕ} (he : -1074 ≤ e) (hr : r < 2 ^ 53)
    (hlead : e = -1074 ∨ 2 ^ 52 ≤ r) (hm : (e + 1074).toNat * 0x10000000000000 + r < 2 ^ 63) :
    (ofMagnitude negative ((e + 1074).toNat * 0x10000000000000 + r)).value =
      (if negative then -(r : ℚ) else r) * 2 ^ e := by
  obtain ⟨hsign, hmagnitude⟩ := @fields_ofMagnitude negative _ hm
  generalize ofMagnitude negative ((e + 1074).toNat * 0x10000000000000 + r) = x at *
  have hx := x.magnitude_eq
  have hxe := x.neg_1074_le_exponent
  have hxr := x.significand_lt
  have hxlead : x.exponent = -1074 ∨ 2 ^ 52 ≤ x.significand := by
    by_cases h : x.exponent = -1074
    · exact .inl h
    · exact .inr (le_significand h)
  have hexponent : x.exponent = e := by omega
  have hsignificand : x.significand = r := by
    rw [hexponent] at hx
    omega
  rw [value_eq_abs, abs_value, hexponent, hsignificand, hsign]
  cases negative <;> simp

/-- A significand of at most 53 bits is moved up to the unit of the nearest number without a loss.

**Proof sketch.** The unit is the exponent lowered by the bits that are free above the significand, but
not below the least one. -/
lemma exists_unit {m : ℕ} {e : ℤ} (hzero : m ≠ 0) (hm : m < 2 ^ 53) (hle : -1074 ≤ e) :
    ∃ (u : ℤ) (k : ℕ), Max.max (e + m.log2 - 52) (-1074) = u ∧ e = u + k ∧ m * 2 ^ k < 2 ^ 53 ∧
      (u = -1074 ∨ 2 ^ 52 ≤ m * 2 ^ k) := by
  have hlog : m.log2 < 53 := (Nat.log2_lt hzero).mpr hm
  obtain ⟨u, hu⟩ : ∃ u, Max.max (e + m.log2 - 52) (-1074) = u := ⟨_, rfl⟩
  obtain ⟨k, hk⟩ : ∃ k : ℕ, e = u + k := ⟨(e - u).toNat, by omega⟩
  refine ⟨u, k, hu, hk, ?_, ?_⟩
  · calc m * 2 ^ k < 2 ^ (m.log2 + 1) * 2 ^ k :=
          Nat.mul_lt_mul_of_pos_right Nat.lt_log2_self (Nat.two_pow_pos k)
      _ = 2 ^ (m.log2 + 1 + k) := (Nat.pow_add ..).symm
      _ ≤ 2 ^ 53 := Nat.pow_le_pow_right Nat.two_pos (by omega)
  · by_cases hleast : u = -1074
    · exact .inl hleast
    · refine .inr ?_
      calc 2 ^ 52 = 2 ^ m.log2 * 2 ^ k := by rw [← Nat.pow_add]; congr 1; omega
        _ ≤ m * 2 ^ k := Nat.mul_le_mul_right _ (Nat.log2_self_le hzero)

/-- A value with a significand of at most 53 bits is exact.

**Proof sketch.** Zero is exact. Otherwise the significand is moved to the unit by whole bits
(`exists_unit`), which rounds nothing, and the number is built from the two (`value_ofMagnitude`). -/
lemma value_ofScaled {m : ℕ} {e : ℤ} (hm : m < 2 ^ 53) (hle : -1074 ≤ e) (hge : e ≤ 971) :
    (ofScaled negative m e).isFinite = true ∧
    (ofScaled negative m e).value = (if negative then -(m : ℚ) else m) * 2 ^ e := by
  by_cases hzero : m = 0
  · have hvalue : (zero negative).value = 0 := by
      rw [value_eq_abs, abs_value, show (zero negative).significand = 0 by cases negative <;> decide]
      simp
    rw [ofScaled, if_pos hzero, hvalue, hzero]
    exact ⟨by cases negative <;> decide, by simp⟩
  · obtain ⟨u, k, hu, hk, hlt, hlead⟩ := exists_unit hzero hm hle
    have hmagnitude : (u + 1074).toNat * 0x10000000000000 + m * 2 ^ k < infiniteMagnitude := by
      unfold infiniteMagnitude
      omega
    have hscaled : ofScaled negative m e =
        ofMagnitude negative ((u + 1074).toNat * 0x10000000000000 + m * 2 ^ k) := by
      unfold ofScaled
      rw [if_neg hzero]
      simp only [hu]
      rw [if_pos (by omega), show (e - u).toNat = k by omega, Nat.pow_eq,
        Nat.min_eq_left hmagnitude.le]
    have hword : (u + 1074).toNat * 0x10000000000000 + m * 2 ^ k < 2 ^ 63 :=
      hmagnitude.trans (by decide)
    rw [hscaled]
    constructor
    · rw [isFinite, (fields_ofMagnitude hword).2]
      exact decide_eq_true hmagnitude
    · rw [value_ofMagnitude (by omega) hlt hlead hword, hk, zpow_add₀ two_ne_zero, zpow_natCast]
      cases negative <;>
        simp only [Bool.false_eq_true, if_false, if_true, Nat.cast_mul, Nat.cast_pow, Nat.cast_ofNat] <;>
        ring

end Formula.Double
