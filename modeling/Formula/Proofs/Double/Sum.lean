import Formula.Proofs.Double.Rounding

set_option autoImplicit false

/-!
# Sums

A sum is the exact sum of the values, rounded once. Rounding keeps the order of values, so a sum of integers
that is too great for 53 bits is not rounded to a small one.

## Main results

* `Formula.Double.nearestMagnitude_mono` — rounding keeps the order.
* `Formula.Double.add_eq_nearest` — what is rounded is the sum of the values.
* `Formula.Double.value_add`, `Formula.Double.le_value_add` — sums below `2 ^ 53` and from there on.
-/

namespace Formula.Double

variable {p q : ℚ} {x y : Double}

/-! ## The order of rounded values -/

/-- Rounding to the nearest natural keeps the order.

**Proof sketch.** If the whole parts differ, the smaller value is not rounded above the greater whole
part. Otherwise the two values are compared with the half between the same two naturals. -/
lemma roundEven_mono (h : p ≤ q) : roundEven p ≤ roundEven q := by
  have hfloor : ⌊p⌋₊ ≤ ⌊q⌋₊ := Nat.floor_mono h
  rcases hfloor.lt_or_eq with hlt | heq
  · have hup : roundEven p ≤ ⌊p⌋₊ + 1 := by
      unfold roundEven
      split <;> omega
    have hdown := floor_le_roundEven q
    omega
  · -- Of two values with one whole part, the greater one is nearer to the next number.
    unfold roundEven
    rw [heq]
    split
    · next hup =>
      rw [if_pos]
      rcases hup with hmore | ⟨hhalf, hodd⟩
      · exact .inl (by linarith)
      · rcases h.lt_or_eq with hlt | rfl
        · exact .inl (by linarith)
        · exact .inr ⟨hhalf, hodd⟩
    · split <;> omega

/-- A greater value has no smaller unit. -/
lemma unitExponent_mono (hp : 0 < p) (h : p ≤ q) : unitExponent p ≤ unitExponent q := by
  have hlog : Int.log 2 p ≤ Int.log 2 q := (le_log_iff (hp.trans_le h)).mpr ((zpow_log_le hp).trans h)
  unfold unitExponent
  omega

/-- In its unit a value has at most 53 bits.

**Proof sketch.** The value is less than the next power of two, which is `2 ^ 53` units at most, and
rounding keeps the order. -/
lemma roundEven_unit_le (hp : 0 < p) : roundEven (p / 2 ^ unitExponent p) ≤ 2 ^ 53 := by
  have hunit : (0 : ℚ) < 2 ^ unitExponent p := zpow_pos two_pos _
  have hlog : Int.log 2 p + 1 ≤ 53 + unitExponent p := by
    unfold unitExponent
    omega
  have hle : p / 2 ^ unitExponent p ≤ (2 ^ 53 : ℕ) := by
    rw [div_le_iff₀ hunit]
    calc p ≤ 2 ^ (Int.log 2 p + 1) := (lt_zpow_log hp).le
      _ ≤ 2 ^ (53 + unitExponent p) := zpow_le_zpow_right₀ one_le_two hlog
      _ = (2 ^ 53 : ℕ) * 2 ^ unitExponent p := by
          rw [zpow_add₀ two_ne_zero]
          norm_num
  have hround := roundEven_mono hle
  rwa [roundEven_natCast] at hround

/-- In its unit a value has 53 bits, unless that is the least unit.

**Proof sketch.** The value is not less than its power of two, which is `2 ^ 52` units, and rounding
keeps the order. -/
lemma le_roundEven_unit (hp : 0 < p) (h : -1074 < unitExponent p) :
    2 ^ 52 ≤ roundEven (p / 2 ^ unitExponent p) := by
  have hunit : (0 : ℚ) < 2 ^ unitExponent p := zpow_pos two_pos _
  have hlog : Int.log 2 p = 52 + unitExponent p := by
    unfold unitExponent at h ⊢
    omega
  have hle : ((2 ^ 52 : ℕ) : ℚ) ≤ p / 2 ^ unitExponent p := by
    rw [le_div_iff₀ hunit]
    calc ((2 ^ 52 : ℕ) : ℚ) * 2 ^ unitExponent p = 2 ^ (52 + unitExponent p) := by
          rw [zpow_add₀ two_ne_zero]
          norm_num
      _ ≤ p := hlog ▸ zpow_log_le hp
  have hround := roundEven_mono hle
  rwa [roundEven_natCast] at hround

/-- The greater one of two values is not rounded to the smaller number.

**Proof sketch.** With one unit the significands are in order. Otherwise the significand of the smaller value
is at most `2 ^ 53`, which is the least one in the next unit. -/
lemma nearestMagnitude_mono (hp : 0 < p) (h : p ≤ q) : nearestMagnitude p ≤ nearestMagnitude q := by
  have hq := hp.trans_le h
  have hleast : -1074 ≤ unitExponent p := by
    unfold unitExponent
    omega
  have hfields : (unitExponent p + 1074).toNat * 0x10000000000000 + roundEven (p / 2 ^ unitExponent p) ≤
      (unitExponent q + 1074).toNat * 0x10000000000000 + roundEven (q / 2 ^ unitExponent q) := by
    rcases (unitExponent_mono hp h).lt_or_eq with hlt | heq
    · have hlow := roundEven_unit_le hp
      have hhigh := le_roundEven_unit hq (by omega)
      omega
    · have hunit : (0 : ℚ) < 2 ^ unitExponent q := zpow_pos two_pos _
      have hround := roundEven_mono ((div_le_div_iff_of_pos_right hunit).mpr h)
      rw [heq]
      exact Nat.add_le_add_left hround _
  exact min_le_min_right infiniteMagnitude hfields

/-- A positive value is rounded to its nearest magnitude, with the sign that is given. -/
lemma fields_nearest (negative : Bool) (hq : 0 < q) :
    (nearest negative q).isNegative = negative ∧ (nearest negative q).magnitude = nearestMagnitude q := by
  have hlt : nearestMagnitude q < 2 ^ 63 := lt_of_le_of_lt (Nat.min_le_right _ _) (by decide)
  rw [nearest, if_neg hq.ne']
  exact fields_ofMagnitude hlt

/-- A value that is not less than that of a number is not rounded to a smaller number.

**Proof sketch.** The magnitude of the number is the nearest one to its own value, so it is not greater
than that of the rounded value, and neither is the absolute value. -/
lemma value_le_value_nearest (hx : x.isFinite = true) (hpos : 0 < x.value) (h : x.value ≤ q) :
    x.value ≤ (nearest false q).value := by
  have hself := nearest_abs_value hx
  rw [abs_of_pos hpos] at hself
  have hxmagnitude : x.magnitude = nearestMagnitude x.value := by
    rw [← (fields_nearest x.isNegative hpos).2, hself]
  obtain ⟨hsign, hmagnitude⟩ := fields_nearest false (hpos.trans_le h)
  have hle := nearestMagnitude_mono hpos h
  have habs : |x.value| ≤ |(nearest false q).value| := by
    by_contra hlt
    have hgt := magnitude_lt_iff.mpr (not_le.mp hlt)
    omega
  rw [value_eq_abs (nearest false q), hsign, if_neg Bool.false_ne_true]
  exact (le_abs_self _).trans habs

/-! ## The sum of two numbers -/

/-- In a smaller unit the significand has zeros behind. -/
lemma value_eq_of_le {e : ℤ} (h : e ≤ x.exponent) :
    ((x.signedSignificand * Nat.pow 2 (x.exponent - e).toNat : ℤ) : ℚ) * 2 ^ e = x.value := by
  have hpos : (0 : ℚ) < 2 ^ e := zpow_pos two_pos e
  rw [value, Int.cast_mul, Int.cast_natCast, Nat.pow_eq, Nat.cast_pow, Nat.cast_ofNat, zpow_sub_toNat h,
    mul_assoc, div_mul_cancel₀ _ hpos.ne']

/-- The sum of two finite numbers is the exact sum of their values, rounded once.

**Proof sketch.** Both significands are brought to the smaller of the two exponents. Their sum is an
integer times a power of two, with the sign of the integer. -/
lemma add_eq_nearest (hx : x.isFinite = true) (hy : y.isFinite = true) :
    x.add y = if x.value + y.value = 0 then zero (x.isNegative && y.isNegative)
      else nearest (decide (x.value + y.value < 0)) |x.value + y.value| := by
  have hxinfinite : x.isInfinite = false := by simp [isFinite, isInfinite] at hx ⊢; omega
  have hyinfinite : y.isInfinite = false := by simp [isFinite, isInfinite] at hy ⊢; omega
  unfold add
  simp only [not_isNaN_of_isFinite hx, not_isNaN_of_isFinite hy, hxinfinite, hyinfinite,
    Bool.false_eq_true, if_false]
  obtain ⟨e, he⟩ : ∃ e, Min.min x.exponent y.exponent = e := ⟨_, rfl⟩
  have hpos : (0 : ℚ) < 2 ^ e := zpow_pos two_pos e
  simp only [he]
  rw [← @value_eq_of_le x e (by omega), ← @value_eq_of_le y e (by omega),
    ← add_mul, ← Int.cast_add]
  generalize x.signedSignificand * _ + y.signedSignificand * _ = sum
  have hzero : (sum : ℚ) * 2 ^ e = 0 ↔ sum = 0 := by simp [hpos.ne']
  have hsign : (sum : ℚ) * 2 ^ e < 0 ↔ sum < 0 := by
    rw [← not_le, mul_nonneg_iff_of_pos_right hpos, not_le, Int.cast_lt_zero]
  rw [ofScaled_eq_nearest, Nat.cast_natAbs, Int.cast_abs, abs_mul, abs_of_pos hpos]
  simp only [hzero, hsign]

/-- A sum that is a natural number of at most 53 bits is exact.

**Proof sketch.** The sum is rounded to the nearest number, and a natural of 53 bits is one. -/
lemma value_add {n : ℕ} (hx : x.isFinite = true) (hy : y.isFinite = true) (h : x.value + y.value = n)
    (hn : n < 2 ^ 53) : (x.add y).isFinite = true ∧ (x.add y).value = n := by
  rw [add_eq_nearest hx hy, h]
  by_cases hzero : n = 0
  · subst hzero
    rw [Nat.cast_zero, if_pos rfl]
    have hvalue := @value_ofScaled (x.isNegative && y.isNegative) 0 0 hn (by decide) (by decide)
    simpa [ofScaled] using hvalue
  · have hvalue := @value_ofScaled false n 0 hn (by decide) (by decide)
    rw [ofScaled_eq_nearest, zpow_zero, mul_one] at hvalue
    rw [if_neg (Nat.cast_ne_zero.mpr hzero), Nat.abs_cast,
      decide_eq_false (not_lt.mpr (Nat.cast_nonneg n))]
    simpa using hvalue

/-- A sum from `2 ^ 53` on is not rounded to a number below.

**Proof sketch.** `2 ^ 53` is a number, and rounding does not pass over a number. -/
lemma le_value_add (hx : x.isFinite = true) (hy : y.isFinite = true) (h : 2 ^ 53 ≤ x.value + y.value) :
    2 ^ 53 ≤ (x.add y).value := by
  have hpos : 0 < x.value + y.value := lt_of_lt_of_le (by norm_num) h
  have hunit : (ofScaled false 1 53).isFinite = true ∧ (ofScaled false 1 53).value = 2 ^ 53 := by
    simpa using @value_ofScaled false 1 53 (by decide) (by decide) (by decide)
  rw [add_eq_nearest hx hy, if_neg hpos.ne', abs_of_pos hpos, decide_eq_false (not_lt.mpr hpos.le),
    ← hunit.2]
  exact value_le_value_nearest hunit.1 (by rw [hunit.2]; norm_num) (by rwa [hunit.2])

end Formula.Double
