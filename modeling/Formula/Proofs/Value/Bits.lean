import Formula.Proofs.Double.Rounding
import Formula.Proofs.Value.Integer
import Mathlib.Data.Int.Bitwise

set_option autoImplicit false

/-!
# Operators on bits are exact

The operands of the operators on bits and of shifts become two's complements of 64 bits, and the results
become numbers again. For integers below `2 ^ 53` both is exact, so that the results are those of two's
complements without an end.

## Main definitions

* `Formula.Value.Yields` — the result is a number with a given exact value.

## Main results

* `Formula.Double.value_ofInt` — an integer of at most 53 bits, with zeros behind, is a number.
* `Formula.Value.bits_exact` — the results of the operators on bits and of shifts.
-/

namespace Formula

variable {i j : Int} {w : Nat}

/-! ## Two's complements -/

section TwosComplement

variable {f : Bool → Bool → Bool}

/-- The bits of a two's complement are those of the integer. -/
lemma getLsbD_ofInt (i : Int) (n : Nat) :
    (BitVec.ofInt w i).getLsbD n = (decide (n < w) && i.testBit n) := by
  cases i with
  | ofNat m => exact BitVec.getLsbD_ofNat w m n
  | negSucc m =>
    rw [BitVec.ofInt_negSucc_eq_not_ofNat, BitVec.getLsbD_not, BitVec.getLsbD_ofNat, Int.testBit]
    cases decide (n < w) <;> rfl

/-- A bitwise operation on the bits of two naturals stays below the same power of two, or is not below
its negative. -/
lemma natBitwise_bounds (f : Bool → Bool → Bool) {k m n : Nat} (hm : m < 2 ^ k) (hn : n < 2 ^ k) :
    -2 ^ k ≤ Int.natBitwise f m n ∧ Int.natBitwise f m n < 2 ^ k := by
  have hpos : Nat.bitwise f m n < 2 ^ k := Nat.bitwise_lt_two_pow hm hn
  have hneg : Nat.bitwise (fun x y => !f x y) m n < 2 ^ k := Nat.bitwise_lt_two_pow hm hn
  zify at hpos hneg
  unfold Int.natBitwise
  cases f false false <;> simp only [cond_true, cond_false] <;> omega

/-- A bitwise operation on integers that fit into some bits has a result that fits.

**Proof sketch.** A natural or one less than a negated one has bits below the power, and so has what the
operation makes of them. -/
lemma bitwise_bounds {k : Nat} (hi : -2 ^ k ≤ i ∧ i < 2 ^ k) (hj : -2 ^ k ≤ j ∧ j < 2 ^ k) :
    -2 ^ k ≤ Int.bitwise f i j ∧ Int.bitwise f i j < 2 ^ k := by
  have hfits (i : Int) (hi : -2 ^ k ≤ i ∧ i < 2 ^ k) :
      ∃ m : Nat, m < 2 ^ k ∧ (i = Int.ofNat m ∨ i = Int.negSucc m) := by
    cases i with
    | ofNat m => exact ⟨m, by zify; exact hi.2, .inl rfl⟩
    | negSucc m => exact ⟨m, by zify; omega, .inr rfl⟩
  obtain ⟨m, hm, rfl | rfl⟩ := hfits i hi <;> obtain ⟨n, hn, rfl | rfl⟩ := hfits j hj <;>
    rw [Int.bitwise] <;> exact natBitwise_bounds _ hm hn

/-- A bitwise operation on two's complements is the operation on the integers.

**Proof sketch.** The operation acts on each of the 64 bits by itself, and the integer that it makes
fits into them. -/
lemma toInt_bitwise {g : BitVec 64 → BitVec 64 → BitVec 64}
    (hg : ∀ a b n, n < 64 → (g a b).getLsbD n = f (a.getLsbD n) (b.getLsbD n))
    (hi : -2 ^ 63 ≤ i ∧ i < 2 ^ 63) (hj : -2 ^ 63 ≤ j ∧ j < 2 ^ 63) :
    (g (Value.word i) (Value.word j)).toInt = Int.bitwise f i j := by
  have hword : g (Value.word i) (Value.word j) = BitVec.ofInt 64 (Int.bitwise f i j) := by
    refine BitVec.eq_of_getLsbD_eq fun n hn => ?_
    rw [hg _ _ n hn, Value.word, Value.word, getLsbD_ofInt, getLsbD_ofInt, getLsbD_ofInt,
      Int.testBit_bitwise, decide_eq_true hn, Bool.true_and, Bool.true_and, Bool.true_and]
  obtain ⟨hle, hlt⟩ := bitwise_bounds (f := f) hi hj
  rw [hword, BitVec.toInt_ofInt_eq_self (by decide) hle hlt]

end TwosComplement

/-- The complement of an integer is one less than its negation. -/
lemma lnot_eq (i : Int) : Int.lnot i = -i - 1 := by
  cases i with
  | ofNat m =>
    rw [Int.lnot, Int.negSucc_eq, Int.ofNat_eq_natCast]
    omega
  | negSucc m =>
    rw [Int.lnot, Int.negSucc_eq]
    omega

/-- The complement of a two's complement is that of the integer.

**Proof sketch.** The bits of the complement are turned around, and its bounds are those of the integer. -/
lemma toInt_not (hi : -2 ^ 63 ≤ i ∧ i < 2 ^ 63) : (~~~Value.word i).toInt = Int.lnot i := by
  have hword : ~~~Value.word i = BitVec.ofInt 64 (Int.lnot i) := by
    cases i with
    | ofNat m => exact BitVec.ofInt_negSucc_eq_not_ofNat.symm
    | negSucc m =>
      rw [Value.word, BitVec.ofInt_negSucc_eq_not_ofNat, BitVec.not_not]
      rfl
  have hlnot := lnot_eq i
  rw [hword, BitVec.toInt_ofInt_eq_self (by decide) (by omega) (by omega)]

/-- Shifting a two's complement to the left multiplies the integer, unless the product is too great.

**Proof sketch.** A shift to the left is a product with a power of two on the bits, and the product fits
by assumption. -/
lemma toInt_shiftLeft {n : Nat} (h : -2 ^ 63 ≤ i * 2 ^ n ∧ i * 2 ^ n < 2 ^ 63) :
    ((Value.word i).shiftLeft n).toInt = i * 2 ^ n := by
  have htwo : BitVec.ofInt 64 (2 ^ n) = BitVec.twoPow 64 n := by
    refine BitVec.eq_of_toNat_eq ?_
    rw [BitVec.toNat_twoPow, BitVec.toNat_ofInt]
    norm_cast
  have hword : (Value.word i).shiftLeft n = BitVec.ofInt 64 (i * 2 ^ n) := by
    rw [BitVec.ofInt_mul, htwo, ← BitVec.shiftLeft_eq_mul_twoPow]
    rfl
  rw [hword, BitVec.toInt_ofInt_eq_self (by decide) h.1 h.2]

/-- Shifting a two's complement to the right divides the integer and rounds down. -/
lemma toInt_sshiftRight (hi : -2 ^ 63 ≤ i ∧ i < 2 ^ 63) (n : Nat) :
    ((Value.word i).sshiftRight n).toInt = ⌊(i : ℚ) / 2 ^ n⌋ := by
  have hfloor := Rat.floor_intCast_div_natCast i (2 ^ n)
  rw [Nat.cast_pow, Nat.cast_ofNat] at hfloor
  rw [BitVec.toInt_sshiftRight, Value.word, BitVec.toInt_ofInt_eq_self (by decide) hi.1 hi.2,
    Int.shiftRight_eq_div_pow, hfloor]

/-! ## Integers as numbers -/

/-- An integer of at most 53 bits, with zeros behind, is a number.

**Proof sketch.** The integer is its sign and its absolute value, and these are what `ofScaled` takes
without rounding. -/
lemma Double.value_ofInt {k : Nat} (hi : i.natAbs < 2 ^ 53) (hk : k ≤ 971) :
    (ofInt (i * 2 ^ k)).isFinite = true ∧ (ofInt (i * 2 ^ k)).value = i * 2 ^ k := by
  have hpos : (0 : Int) < 2 ^ k := by positivity
  have hsign : decide (i * 2 ^ k < 0) = decide (i < 0) := by
    rw [decide_eq_decide, ← not_le, ← not_le, mul_nonneg_iff_of_pos_right hpos]
  have habs : (i * 2 ^ k).natAbs = i.natAbs * 2 ^ k := by
    rw [Int.natAbs_mul, Int.natAbs_pow]
    rfl
  have hscaled : ofInt (i * 2 ^ k) = ofScaled (decide (i < 0)) i.natAbs k := by
    rw [ofInt, hsign, habs, ofScaled_eq_nearest, ofScaled_eq_nearest, zpow_zero, mul_one,
      zpow_natCast, Nat.cast_mul, Nat.cast_pow, Nat.cast_ofNat]
  obtain ⟨hfinite, hvalue⟩ := @value_ofScaled (decide (i < 0)) _ k hi (by omega) (by omega)
  rw [hscaled]
  refine ⟨hfinite, hvalue.trans ?_⟩
  rw [zpow_natCast]
  congr 1
  split
  · next h => rw [Nat.cast_natAbs, abs_of_neg (of_decide_eq_true h), Int.cast_neg, neg_neg]
  · next h => rw [Nat.cast_natAbs, abs_of_nonneg (not_lt.mp (mt decide_eq_true h))]

namespace Value

variable {u v : Value} {symbol : String}

/-- The result is a number with the given exact value. -/
def Yields (result : Except EvalError Value) (q : ℚ) : Prop :=
  ∃ x, result = .ok (.number x) ∧ x.isFinite = true ∧ x.value = q

/-- An integer of 53 bits and a sign is yielded as it is. -/
lemma yields_ofInt (h : -2 ^ 53 ≤ i ∧ i < 2 ^ 53) : Yields (.ok (ofInt i)) i := by
  by_cases hleast : i = -2 ^ 53
  · obtain ⟨hfinite, hvalue⟩ := Double.value_ofInt (i := -1) (k := 53) (by decide) (by decide)
    rw [hleast]
    exact ⟨_, rfl, hfinite, hvalue.trans (by norm_num)⟩
  · obtain ⟨hfinite, hvalue⟩ := Double.value_ofInt (i := i) (k := 0) (by omega) (by decide)
    rw [pow_zero, mul_one] at hfinite hvalue
    exact ⟨_, rfl, hfinite, hvalue.trans (by rw [pow_zero, mul_one])⟩

/-- A value that stands for an integer of 64 bits is read as this integer. -/
lemma toInteger_of_denotes (h : u.Denotes i) (hi : -2 ^ 63 ≤ i ∧ i < 2 ^ 63) :
    u.toInteger symbol = .ok i := by
  obtain ⟨x, hx, hfinite, hvalue⟩ := h
  exact toInteger_eq_ok_iff.mpr ⟨x, toNumber_eq_ok_iff.mpr hx, hfinite, .inl ⟨hvalue, hi⟩⟩

/-- The number made of an integer of 53 bits stands for it. -/
lemma denotes_ofInt (h : -2 ^ 53 ≤ i ∧ i < 2 ^ 53) : (ofInt i).Denotes i := by
  obtain ⟨x, hx, hfinite, hvalue⟩ := yields_ofInt h
  exact ⟨x, congrArg number? (Except.ok.inj hx), hfinite, hvalue⟩

/-- The number made of an integer of 53 bits is read as it. -/
lemma toInteger_ofInt (h : -2 ^ 53 ≤ i ∧ i < 2 ^ 53) : (ofInt i).toInteger symbol = .ok i :=
  toInteger_of_denotes (denotes_ofInt h) ⟨by omega, by omega⟩

/-- An operation on integers is done with the integers that the operands stand for. -/
lemma onIntegers_of_denotes {f : Int → Int → Except EvalError Int} (hu : u.Denotes i)
    (hi : -2 ^ 63 ≤ i ∧ i < 2 ^ 63) (hv : v.Denotes j) (hj : -2 ^ 63 ≤ j ∧ j < 2 ^ 63) :
    u.onIntegers symbol f v = (f i j).map ofInt := by
  rw [onIntegers, toInteger_of_denotes hu hi, toInteger_of_denotes hv hj]
  change f i j >>= (fun k => .ok (ofInt k)) = _
  cases f i j <;> rfl

/-- A bitwise operation on integers below `2 ^ 53` is exact. -/
lemma yields_bitwise {f : Bool → Bool → Bool} {g : BitVec 64 → BitVec 64 → BitVec 64}
    (hg : ∀ a b n, n < 64 → (g a b).getLsbD n = f (a.getLsbD n) (b.getLsbD n))
    (hi : |i| < 2 ^ 53) (hj : |j| < 2 ^ 53) :
    Yields ((onWords g i j).map ofInt) (Int.bitwise f i j) := by
  rw [abs_lt] at hi hj
  rw [onWords, toInt_bitwise hg (by omega) (by omega)]
  exact yields_ofInt (bitwise_bounds ⟨hi.1.le, hi.2⟩ ⟨hj.1.le, hj.2⟩)

/-- The complement of an integer of 53 bits is yielded exactly. -/
lemma yields_not (hi : |i| < 2 ^ 53) : Yields (.ok (ofInt (~~~word i).toInt)) (Int.lnot i) := by
  rw [abs_lt] at hi
  have hlnot := lnot_eq i
  rw [toInt_not (by omega)]
  exact yields_ofInt (by omega)

/-- A quotient by a power of two is not greater than the dividend.

**Proof sketch.** The quotient lies between the bounds of the dividend, so it fits into 53 bits too. -/
lemma yields_shiftRight {n : Nat} (hi : |i| < 2 ^ 53) (hn : n < 64) :
    Yields ((shiftBy BitVec.sshiftRight i n).map ofInt) ⌊(i : ℚ) / 2 ^ n⌋ := by
  rw [abs_lt] at hi
  have hone : (1 : ℚ) ≤ 2 ^ n := one_le_pow₀ one_le_two
  have hpos : (0 : ℚ) < 2 ^ n := by positivity
  have hlow : -2 ^ 53 < (i : ℚ) := by exact_mod_cast hi.1
  have hhigh : (i : ℚ) < 2 ^ 53 := by exact_mod_cast hi.2
  rw [shiftBy, if_pos (by omega), Int.toNat_natCast, toInt_sshiftRight (by omega)]
  refine yields_ofInt ⟨Int.le_floor.mpr ?_, Int.floor_lt.mpr ?_⟩
  · rw [le_div_iff₀ hpos]
    push_cast
    linarith
  · rw [div_lt_iff₀ hpos]
    push_cast
    linarith

/-- A product with a power of two has no more bits than the factor. -/
lemma yields_shiftLeft {n : Nat} (hi : |i| < 2 ^ 53) (hn : n < 64) (h : |(i : ℚ) * 2 ^ n| < 2 ^ 63) :
    Yields ((shiftBy BitVec.shiftLeft i n).map ofInt) (i * 2 ^ n) := by
  have hword : |i * 2 ^ n| < 2 ^ 63 := by exact_mod_cast h
  rw [abs_lt] at hi hword
  obtain ⟨hfinite, hvalue⟩ := Double.value_ofInt (i := i) (k := n) (by omega) (by omega)
  rw [shiftBy, if_pos (by omega), Int.toNat_natCast, toInt_shiftLeft (by omega)]
  exact ⟨_, rfl, hfinite, hvalue⟩

/-- **Operators on bits are exact on integers below `2 ^ 53`.** For operands whose exact values are such
integers `i` and `j`:

1. The results of `&`, `|`, `^` and `~` are those of two's complements without an end.
2. For `j` from 0 to 63, shifting to the right gives `i / 2 ^ j`, rounded down, and shifting to the left
   gives `i * 2 ^ j` if this is less than `2 ^ 63` in absolute value.
3. For any other `j` both shifts fail, and the failure says `j`.

**Proof sketch.** The operands are in the range of 64 bits, where a two's complement has the bits of the
integer, so each bit of a result is that of the operation without an end. The result is a sign and at
most 53 bits, or `-2 ^ 53`, so that it is within 64 bits and is a number. A shift to the right makes the
integer smaller. One to the left adds zeros behind its bits, which only change the exponent of the
number. -/
theorem bits_exact (hu : u.Denotes i) (hi : |i| < 2 ^ 53) (hv : v.Denotes j) (hj : |j| < 2 ^ 53) :
    Yields (BinaryOperator.bitAnd.apply u v) (Int.land i j) ∧
    Yields (BinaryOperator.bitOr.apply u v) (Int.lor i j) ∧
    Yields (BinaryOperator.bitXor.apply u v) (Int.xor i j) ∧
    Yields (UnaryOperator.bitNot.apply u) (Int.lnot i) ∧
    (0 ≤ j → j < 64 →
      Yields (BinaryOperator.shiftRight.apply u v) ⌊(i : ℚ) / 2 ^ j⌋ ∧
      (|(i : ℚ) * 2 ^ j| < 2 ^ 63 →
        Yields (BinaryOperator.shiftLeft.apply u v) (i * 2 ^ j))) ∧
    (j < 0 ∨ 64 ≤ j →
      BinaryOperator.shiftRight.apply u v = .error (.function "shift" (.shiftOutOfRange j)) ∧
      BinaryOperator.shiftLeft.apply u v = .error (.function "shift" (.shiftOutOfRange j))) := by
  have hiword := abs_lt.mp hi
  have hjword := abs_lt.mp hj
  -- What an operator does to two words it does to the integers that the operands denote.
  have happly {op : BinaryOperator} {f : Int → Int → Except EvalError Int}
      (hop : op.onWords? = some f) : op.apply u v = (f i j).map ofInt := by
    rw [BinaryOperator.apply_of_onWords? hop, onIntegers_of_denotes hu (by omega) hv (by omega)]
  refine ⟨?_, ?_, ?_, ?_, fun hle hlt => ?_, fun hout => ?_⟩
  · rw [happly rfl, ← Int.bitwise_and]
    exact yields_bitwise (fun _ _ _ _ => BitVec.getLsbD_and) hi hj
  · rw [happly rfl, ← Int.bitwise_or]
    exact yields_bitwise (fun _ _ _ _ => BitVec.getLsbD_or) hi hj
  · rw [happly rfl, ← Int.bitwise_xor]
    exact yields_bitwise (fun _ _ _ _ => BitVec.getLsbD_xor) hi hj
  · have hnot : UnaryOperator.bitNot.apply u = .ok (ofInt (~~~word i).toInt) := by
      simp only [UnaryOperator.apply, toInteger_of_denotes hu (i := i) (by omega)]
      rfl
    rw [hnot]
    exact yields_not hi
  · obtain ⟨n, rfl⟩ := Int.eq_ofNat_of_zero_le hle
    rw [happly rfl, happly rfl, zpow_natCast]
    exact ⟨yields_shiftRight hi (by omega), yields_shiftLeft hi (by omega)⟩
  · have hrange : ¬(0 ≤ j ∧ j < 64) := by omega
    rw [happly rfl, happly rfl, shiftBy, shiftBy, if_neg hrange, if_neg hrange]
    exact ⟨rfl, rfl⟩

/-- A negative operand: an exclusive or, a quotient that is rounded down, and a shift that fails. -/
theorem bits_exact_negative :
    Yields (BinaryOperator.bitXor.apply (number (.ofInt (-5))) (number (.ofInt 1))) (-6 : Int) ∧
    Yields (BinaryOperator.shiftRight.apply (number (.ofInt (-5))) (number (.ofInt 1))) (-3 : Int) ∧
    BinaryOperator.shiftLeft.apply (number (.ofInt (-5))) (number (.ofInt (-1))) =
      .error (.function "shift" (.shiftOutOfRange (-1))) := by
  have hfive : (number (.ofInt (-5))).Denotes (-5) := number_denotes_iff.mpr (by decide)
  have hone : (number (.ofInt 1)).Denotes 1 := number_denotes_iff.mpr (by decide)
  have hneg : (number (.ofInt (-1))).Denotes (-1) := number_denotes_iff.mpr (by decide)
  have hxor : Int.xor (-5) 1 = -6 := by decide
  have hfloor : ⌊((-5 : Int) : ℚ) / 2 ^ (1 : Int)⌋ = -3 := by norm_num [Int.floor_eq_iff]
  obtain ⟨-, -, hbits, -, hshifts, -⟩ := bits_exact hfive (by decide) hone (by decide)
  obtain ⟨-, -, -, -, -, hfails⟩ := bits_exact hfive (by decide) hneg (by decide)
  rw [hxor] at hbits
  have hright := (hshifts (by decide) (by decide)).1
  rw [hfloor] at hright
  exact ⟨hbits, hright, (hfails (.inl (by decide))).2⟩

end Value

end Formula
