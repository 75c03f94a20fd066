import Formula.Proofs.Builtin.Bounded
import Formula.Proofs.Builtin.Calls
import Formula.Proofs.Double.Sum
import Formula.Proofs.Value.Bits

set_option autoImplicit false

/-!
# Repeated texts

A text is repeated if what comes out is not too long. Its size is a product, and is compared with the limit
before anything is put together. Where the product leaves 64 bits it has no value, and so does not pass for a
small one.

## Main definitions

* `Formula.Builtin.Texts.repeatedSize?` — the size of a text that is repeated, if it is not too long.

## Main results

* `Formula.Builtin.Texts.times_eq` — how a text is repeated.
* `Formula.Value.toInteger_add` — a sum of two numbers that are not negative is not taken for another small
  integer.
* `Formula.Builtin.Texts.repeat_copies` — when `repeat` succeeds, and what it gives.
-/

namespace Formula

/-! ## Sums of counts -/

namespace Value

variable {v w sum : Value} {x y : Double} {k m n : Int} {operation : String}

/-- The number of a value is not less than the integer that the value is taken for, and differs from it only
from `2 ^ 53` on.

**Proof sketch.** The greatest integer of 64 bits is what `2 ^ 63` is taken for. Every other number is
taken for itself. -/
lemma number?_of_toInteger (h : v.toInteger operation = .ok m) :
    ∃ x, v.number? = some x ∧ x.isFinite = true ∧ m ≤ x.value ∧
      (x.value = m ∨ 2 ^ 53 ≤ x.value ∧ 2 ^ 53 ≤ m) := by
  obtain ⟨x, hx, hfinite, hvalue⟩ := toInteger_eq_ok_iff.mp h
  refine ⟨x, toNumber_eq_ok_iff.mp hx, hfinite, ?_⟩
  rcases hvalue with ⟨hvalue, -, -⟩ | ⟨hvalue, rfl⟩
  · exact ⟨hvalue.ge, .inl hvalue⟩
  · rw [hvalue]
    exact ⟨by exact_mod_cast (by decide : greatestInteger ≤ 2 ^ 63), .inr ⟨by norm_num, by decide⟩⟩

/-- Two values of which neither is a text are added as numbers.

**Proof sketch.** One case for each kind. Texts are excluded, and null, arrays, maps and timestamps are
no numbers. -/
lemma add_of_number? (hv : v.typeName ≠ "string") (hw : w.typeName ≠ "string") (hx : v.number? = some x)
    (hy : w.number? = some y) : BinaryOperator.add.apply v w = .ok (.number (x.add y)) := by
  have hnumbers : v.onNumbers "+" (fun x y => .ok (x.add y)) w = .ok (.number (x.add y)) := by
    rw [onNumbers, toNumber_eq_ok_iff.mpr hx, toNumber_eq_ok_iff.mpr hy]
    rfl
  cases v with
  | number | bool =>
    cases w with
    | number | bool => exact hnumbers
    | string => exact absurd rfl hw
    | null | array | map | timestamp => cases hy
  | string => exact absurd rfl hv
  | null | array | map | timestamp => cases hx

/-- A sum of numbers that are taken for integers that are not negative is taken for the sum of these, or for
an integer from `2 ^ 53` on.

**Proof sketch.** A sum from `2 ^ 53` on is not rounded to a number below. If the sum is less, both
counts are exact, and so is their sum. -/
lemma toInteger_add (hm : v.toInteger operation = .ok m) (hn : w.toInteger operation = .ok n)
    (hv : v.typeName ≠ "string") (hw : w.typeName ≠ "string") (hm0 : 0 ≤ m) (hn0 : 0 ≤ n)
    (hsum : BinaryOperator.add.apply v w = .ok sum) (hk : sum.toInteger operation = .ok k) :
    k = m + n ∨ 2 ^ 53 ≤ k := by
  obtain ⟨x, hvx, hx, hmle, hmx⟩ := number?_of_toInteger hm
  obtain ⟨y, hwy, hy, hnle, hny⟩ := number?_of_toInteger hn
  rw [add_of_number? hv hw hvx hwy] at hsum
  obtain rfl := Except.ok.inj hsum
  obtain ⟨_, ⟨⟩, -, -, hkvalue⟩ := number?_of_toInteger hk
  have hm' : (0 : ℚ) ≤ m := Int.cast_nonneg hm0
  have hn' : (0 : ℚ) ≤ n := Int.cast_nonneg hn0
  by_cases hlarge : 2 ^ 53 ≤ x.value + y.value
  · rcases hkvalue with hkvalue | ⟨-, hle⟩
    · have hle := Double.le_value_add hx hy hlarge
      rw [hkvalue] at hle
      exact .inr (by exact_mod_cast hle)
    · exact .inr hle
  · -- Below that both counts are exact, and so is their sum.
    have hxm : x.value = m := hmx.resolve_right fun h => hlarge (by linarith [h.1])
    have hyn : y.value = n := hny.resolve_right fun h => hlarge (by linarith [h.1])
    obtain ⟨total, htotal⟩ := Int.eq_ofNat_of_zero_le (Int.add_nonneg hm0 hn0)
    have hexact : x.value + y.value = total := by
      rw [hxm, hyn]
      exact_mod_cast htotal
    have hsmall : total < 2 ^ 53 := by
      rw [hexact] at hlarge
      exact_mod_cast not_le.mp hlarge
    obtain ⟨-, hadd⟩ := Double.value_add hx hy hexact hsmall
    rw [hadd] at hkvalue
    rcases hkvalue with hkvalue | ⟨-, hle⟩
    · rw [htotal]
      exact .inl (by exact_mod_cast hkvalue.symm)
    · exact .inr hle

end Value

namespace Builtin.Texts

variable {s : String} {n : Int} {size : Nat}

/-! ## The size of the result -/

/-- The size of so many copies of a text, of which the size is given, if there can be so many and it is not
too long. -/
def repeatedSize? (size : Nat) (n : Int) : Option Nat := do
  let product ← Bounded.product? size (← Bounded.count? n)
  if product ≤ greatestSize then some product else none

/-- Nothing within the limit leaves 64 bits, so the size is the exact product.

**Proof sketch.** A product within the limit is an unsigned integer of 64 bits, and a product that is
not such an integer is beyond the limit. -/
lemma repeatedSize?_eq_some_iff {product : Nat} :
    repeatedSize? size n = some product ↔
      0 ≤ n ∧ (product : Int) = n * size ∧ n * size ≤ 16 * 2 ^ 20 := by
  have hlimit : greatestSize = 16 * 2 ^ 20 := rfl
  by_cases hn : 0 ≤ n
  · obtain ⟨k, rfl⟩ := Int.eq_ofNat_of_zero_le hn
    rw [repeatedSize?, Bounded.count?_of_nonneg hn, Bounded.some_bind, Int.toNat_natCast]
    simp only [Option.bind_eq_bind, Option.bind_eq_some_iff, Bounded.product?_eq_some_iff,
      Option.ite_none_right_eq_some, Option.some_inj]
    have hcomm : (k : Int) * size = (size * k : Nat) := by
      rw [Nat.mul_comm]
      rfl
    rw [hcomm]
    generalize size * k = exact
    constructor
    · rintro ⟨_, ⟨-, rfl⟩, hle, rfl⟩
      omega
    · rintro ⟨-, heq, hle⟩
      exact ⟨exact, ⟨by omega, rfl⟩, by omega, by omega⟩
  · rw [repeatedSize?, Bounded.count?, if_neg hn]
    constructor
    · nofun
    · intro h
      exact absurd h.1 hn

/-! ## Copies -/

/-- Copies that are put behind each other one by one.

**Proof sketch.** Induction on the number of copies. The last of them is put behind the others. -/
lemma times_eq (n : Nat) (s : String) : times n s = String.join (List.replicate n s) := by
  unfold times
  induction n with
  | zero => rfl
  | succ n ih =>
    rw [List.replicate_succ', String.join_append, ← ih]
    simp [Nat.repeat]

/-- The copies of the empty text are empty. -/
lemma times_empty (n : Nat) : times n "" = "" := by
  rw [times_eq]
  induction n with
  | zero => rfl
  | succ n ih => rwa [List.replicate_succ, String.join_cons, String.empty_append]

/-- More copies behind copies. -/
lemma times_add (m n : Nat) (s : String) : times m s ++ times n s = times (m + n) s := by
  rw [times_eq, times_eq, times_eq, List.replicate_add, String.join_append]

/-- The size of copies is the product of their number and the size of the text. -/
lemma utf8ByteSize_times (n : Nat) (s : String) : (times n s).utf8ByteSize = n * s.utf8ByteSize := by
  rw [times_eq]
  induction n with
  | zero => simp
  | succ n ih =>
    rw [List.replicate_succ, String.join_cons, String.utf8ByteSize_append, ih, Nat.succ_mul, Nat.add_comm]

/-! ## The function -/

section Function

variable {count other sum r : Value} {m : Int}

/-- So many copies of a text, or why there are none. -/
def copies (s : String) (n : Int) : Except EvalError String :=
  if n < 0 then .error (.function "repeat" .negativeCount)
  else if greatestSize < s.utf8ByteSize * n.toNat then .error (.function "repeat" (.tooLong greatestSize))
  else .ok (times n.toNat s)

/-- Once the count is read, so many copies are made.

**Proof sketch.** The count comes first, and then the two refusals in the order in which the function
looks for them. -/
lemma repeated_eq (s : String) (h : count.toInteger "repeat" = .ok n) :
    (repeated [.string s, count]).result = (copies s n).map .string := by
  show (liftM (count.toInteger "repeat") >>= fun n => _ : Looking Value).result = _
  rw [Looking.result_bind, Looking.result_lift, h]
  simp only [bind, Except.bind, copies]
  by_cases hneg : n < 0
  · rw [if_pos hneg, if_pos hneg]
    rfl
  · rw [if_neg hneg, if_neg hneg]
    by_cases hlong : greatestSize < s.utf8ByteSize * n.toNat
    · rw [if_pos hlong, if_pos hlong]
      rfl
    · rw [if_neg hlong, if_neg hlong]
      rfl

/-- The same for a call by the name. -/
lemma gives_repeat (s : String) (h : count.toInteger "repeat" = .ok n) :
    Gives "repeat" [.string s, count] ((copies s n).map .string) :=
  gives_watching rfl rfl (repeated_eq s h)

/-- The product that is compared with the limit is the exact one. -/
lemma le_greatestSize_iff (hn : 0 ≤ n) :
    s.utf8ByteSize * n.toNat ≤ greatestSize ↔ n * s.utf8ByteSize ≤ 16 * 2 ^ 20 := by
  obtain ⟨k, rfl⟩ := Int.eq_ofNat_of_zero_le hn
  rw [Int.toNat_natCast, Nat.mul_comm]
  norm_cast

/-- There are no negative numbers of copies. -/
lemma copies_of_neg (h : n < 0) : copies s n = .error (.function "repeat" .negativeCount) :=
  if_pos h

/-- Copies that are too long together are refused. -/
lemma copies_of_lt (hn : 0 ≤ n) (h : 16 * 2 ^ 20 < n * s.utf8ByteSize) :
    copies s n = .error (.function "repeat" (.tooLong (16 * 2 ^ 20))) := by
  have hlt : greatestSize < s.utf8ByteSize * n.toNat := by
    rw [← not_le, le_greatestSize_iff hn]
    exact not_le.mpr h
  rw [copies, if_neg (not_lt.mpr hn), if_pos hlt]
  rfl

/-- A text is repeated if the count is not negative and the exact product is within the limit. -/
lemma copies_of_le (hn : 0 ≤ n) (h : n * s.utf8ByteSize ≤ 16 * 2 ^ 20) :
    copies s n = .ok (times n.toNat s) := by
  rw [copies, if_neg (not_lt.mpr hn), if_neg (not_lt.mpr ((le_greatestSize_iff hn).mpr h))]

/-- When a text is repeated, for a count that is taken for an integer.

**Proof sketch.** By cases on the sign of the count, and on whether the copies are too long. -/
lemma gives_repeat_ok_iff (h : count.toInteger "repeat" = .ok n) :
    Gives "repeat" [.string s, count] (.ok r) ↔
      0 ≤ n ∧ n * s.utf8ByteSize ≤ 16 * 2 ^ 20 ∧ r = .string (times n.toNat s) := by
  rw [(gives_repeat s h).result_iff]
  by_cases hn : 0 ≤ n
  · by_cases hle : n * s.utf8ByteSize ≤ 16 * 2 ^ 20
    · rw [copies_of_le hn hle, and_iff_right hn, and_iff_right hle, Except.map, Except.ok.injEq, eq_comm]
    · rw [copies_of_lt hn (not_le.mp hle)]
      exact iff_of_false nofun fun hr => hle hr.2.1
  · rw [copies_of_neg (not_le.mp hn)]
    exact iff_of_false nofun fun hr => hn hr.1

/-- Nothing is repeated for a count that is not taken for an integer.

**Proof sketch.** Otherwise the call would fail as the count does. -/
lemma exists_toInteger_of_gives (h : Gives "repeat" [.string s, count] (.ok r)) :
    ∃ n, count.toInteger "repeat" = .ok n := by
  cases hcount : count.toInteger "repeat" with
  | error e =>
    have hfails : Gives "repeat" [.string s, count] (.error e) := by
      refine gives_watching rfl rfl ?_
      show (liftM (count.toInteger "repeat") >>= fun n => _ : Looking Value).result = _
      rw [Looking.result_bind, Looking.result_lift, hcount]
      rfl
    cases h.unique hfails
  | ok n => exact ⟨n, rfl⟩

/-- If a sum of counts is within the limit, then both of them are, and their copies are those for the sum.
The sum may be another one if it is so large that only the empty text can be repeated.

**Proof sketch.** If the sum is exact, each of the two products is not greater than theirs. If it is `2
^ 53` at least, then only the empty text is within the limit, and all its copies are empty. -/
lemma times_of_sum {k : Int} (hm : 0 ≤ m) (hn : 0 ≤ n) (hk : k = m + n ∨ 2 ^ 53 ≤ k)
    (h : k * s.utf8ByteSize ≤ 16 * 2 ^ 20) :
    m * s.utf8ByteSize ≤ 16 * 2 ^ 20 ∧ n * s.utf8ByteSize ≤ 16 * 2 ^ 20 ∧
      times m.toNat s ++ times n.toNat s = times k.toNat s := by
  rcases hk with rfl | hlarge
  · have hleft : m * s.utf8ByteSize ≤ (m + n) * s.utf8ByteSize :=
      Int.mul_le_mul_of_nonneg_right (by omega) (by omega)
    have hright : n * s.utf8ByteSize ≤ (m + n) * s.utf8ByteSize :=
      Int.mul_le_mul_of_nonneg_right (by omega) (by omega)
    refine ⟨hleft.trans h, hright.trans h, ?_⟩
    rw [times_add, Int.toNat_add hm hn]
  · -- So many copies are only within the limit if all of them are empty.
    have hsize : s.utf8ByteSize = 0 := by
      by_contra hne
      have hgreat : k * 1 ≤ k * s.utf8ByteSize := Int.mul_le_mul_of_nonneg_left (by omega) (by omega)
      omega
    obtain rfl := String.utf8ByteSize_eq_zero_iff.mp hsize
    have hnone (j : Int) : j * "".utf8ByteSize ≤ 16 * 2 ^ 20 := by
      rw [hsize, Nat.cast_zero, Int.mul_zero]
      decide
    refine ⟨hnone m, hnone n, ?_⟩
    rw [times_empty, times_empty, times_empty, String.empty_append]

/-- If a text is repeated for a sum of counts, then it is repeated for each of them. -/
lemma gives_repeat_of_sum {k : Int} (hother : other.toInteger "repeat" = .ok m)
    (hcount : count.toInteger "repeat" = .ok n) (hsum : sum.toInteger "repeat" = .ok k) (hm : 0 ≤ m)
    (hn : 0 ≤ n) (hk : k = m + n ∨ 2 ^ 53 ≤ k) (h : Gives "repeat" [.string s, sum] (.ok r)) :
    ∃ front back, Gives "repeat" [.string s, other] (.ok front) ∧
      Gives "repeat" [.string s, count] (.ok back) ∧ BinaryOperator.add.apply front back = .ok r := by
  obtain ⟨-, hle, rfl⟩ := (gives_repeat_ok_iff hsum).mp h
  obtain ⟨hfront, hback, hcopies⟩ := times_of_sum hm hn hk hle
  refine ⟨_, _, (gives_repeat_ok_iff hother).mpr ⟨hm, hfront, rfl⟩,
    (gives_repeat_ok_iff hcount).mpr ⟨hn, hback, rfl⟩, ?_⟩
  rw [← hcopies]
  rfl

/-- Computed within 64 bits, the size of what is repeated is its size, and that of nothing else.

**Proof sketch.** Both sides say that the count is not negative and that the product is within the
limit. -/
lemma repeatedSize?_eq_some_iff_gives (h : count.toInteger "repeat" = .ok n) :
    repeatedSize? s.utf8ByteSize n = some size ↔
      ∃ t, Gives "repeat" [.string s, count] (.ok (.string t)) ∧ t.utf8ByteSize = size := by
  simp only [gives_repeat_ok_iff h, repeatedSize?_eq_some_iff]
  constructor
  · rintro ⟨hn, hsize, hle⟩
    refine ⟨_, ⟨hn, hle, rfl⟩, ?_⟩
    rw [utf8ByteSize_times]
    zify
    rw [hsize, Int.toNat_of_nonneg hn]
  · rintro ⟨-, ⟨hn, hle, ⟨⟩⟩, rfl⟩
    rw [utf8ByteSize_times, Nat.cast_mul, Int.toNat_of_nonneg hn]
    exact ⟨hn, rfl, hle⟩

/-- **The function `repeat` makes the copies it is asked for, within its limit.** For every text and every
count that is taken for an integer:

1. The text is repeated if and only if the integer is not negative and its exact product with the number of
   bytes of the text is at most `16 * 2 ^ 20`.
2. Computed within 64 bits, the product has a value within the limit in these cases only, and this is the size
   of the result.
3. The result is so many copies, one behind the other.
4. Otherwise the count is refused for being negative, or the result for being too long.
5. If the text is repeated for a sum of two counts that are not negative, be it one that is taken for the sum
   of the integers or what `+` makes of the counts where neither is a text, then it is repeated for both, and
   `+` joins the results to that for the sum.

**Proof sketch.** Products and limits are compared as natural numbers. A sum of counts is exact below
`2 ^ 53`, and no text but the empty one is repeated more often than that. -/
theorem repeat_copies (s : String) (h : count.toInteger "repeat" = .ok n) :
    ((∃ r, Gives "repeat" [.string s, count] (.ok r)) ↔ 0 ≤ n ∧ n * s.utf8ByteSize ≤ 16 * 2 ^ 20) ∧
    (∀ size, repeatedSize? s.utf8ByteSize n = some size ↔
      ∃ t, Gives "repeat" [.string s, count] (.ok (.string t)) ∧ t.utf8ByteSize = size) ∧
    (∀ r, Gives "repeat" [.string s, count] (.ok r) →
      r = .string (String.join (List.replicate n.toNat s))) ∧
    (n < 0 → Gives "repeat" [.string s, count] (.error (.function "repeat" .negativeCount))) ∧
    (0 ≤ n → 16 * 2 ^ 20 < n * s.utf8ByteSize →
      Gives "repeat" [.string s, count] (.error (.function "repeat" (.tooLong (16 * 2 ^ 20))))) ∧
    ∀ other m sum r, other.toInteger "repeat" = .ok m → 0 ≤ m → 0 ≤ n →
      (sum.toInteger "repeat" = .ok (m + n) ∨ other.typeName ≠ "string" ∧ count.typeName ≠ "string" ∧
        BinaryOperator.add.apply other count = .ok sum) →
      Gives "repeat" [.string s, sum] (.ok r) →
      ∃ front back, Gives "repeat" [.string s, other] (.ok front) ∧
        Gives "repeat" [.string s, count] (.ok back) ∧ BinaryOperator.add.apply front back = .ok r := by
  refine ⟨?_, fun size => repeatedSize?_eq_some_iff_gives h, ?_, ?_, ?_, ?_⟩
  · simp only [gives_repeat_ok_iff h]
    constructor
    · rintro ⟨r, hn, hle, -⟩
      exact ⟨hn, hle⟩
    · rintro ⟨hn, hle⟩
      exact ⟨_, hn, hle, rfl⟩
  · intro r hr
    obtain ⟨-, -, rfl⟩ := (gives_repeat_ok_iff h).mp hr
    rw [times_eq]
  · intro hneg
    rw [(gives_repeat s h).result_iff, copies_of_neg hneg]
    rfl
  · intro hn hlong
    rw [(gives_repeat s h).result_iff, copies_of_lt hn hlong]
    rfl
  · intro other m sum r hother hm hn hsum hr
    obtain ⟨k, hk⟩ := exists_toInteger_of_gives hr
    have hkvalue : k = m + n ∨ 2 ^ 53 ≤ k := by
      rcases hsum with heq | ⟨hotherType, hcountType, hadd⟩
      · exact .inl (Except.ok.inj (hk.symm.trans heq))
      · exact Value.toInteger_add hother h hotherType hcountType hm hn hadd hk
    exact gives_repeat_of_sum hother h hk hm hn hkvalue hr

/-- A text of four bytes. `2 ^ 62` copies of it are refused, although their size is `0` modulo `2 ^ 64`, and
three copies are one copy and two further ones. -/
theorem repeat_copies_four_bytes :
    ((Value.ofInt 2).toInteger "repeat" = .ok 2 ∧
      (Value.number (Double.ofNat (2 ^ 62))).toInteger "repeat" = .ok (2 ^ 62)) ∧
    Gives "repeat" [.string "𝕊", .number (Double.ofNat (2 ^ 62))]
      (.error (.function "repeat" (.tooLong (16 * 2 ^ 20)))) ∧
    Gives "repeat" [.string "𝕊", .ofInt 2] (.ok (.string "𝕊𝕊")) ∧
    ∃ front back, Gives "repeat" [.string "𝕊", .ofInt 1] (.ok front) ∧
      Gives "repeat" [.string "𝕊", .ofInt 2] (.ok back) ∧
      BinaryOperator.add.apply front back = .ok (.string "𝕊𝕊𝕊") := by
  have hone : (Value.ofInt 1).toInteger "repeat" = .ok 1 := Value.toInteger_ofInt (by decide)
  have htwo : (Value.ofInt 2).toInteger "repeat" = .ok 2 := Value.toInteger_ofInt (by decide)
  have hthree : (Value.ofInt 3).toInteger "repeat" = .ok 3 := Value.toInteger_ofInt (by decide)
  have hmany : (Value.number (Double.ofNat (2 ^ 62))).toInteger "repeat" = .ok (2 ^ 62) := by
    decide +kernel
  obtain ⟨-, -, -, -, hlong, -⟩ := repeat_copies "𝕊" hmany
  obtain ⟨hsucceeds, -, hjoined, -, -, hsum⟩ := repeat_copies "𝕊" htwo
  obtain ⟨hsucceeds', -, hjoined', -, -, -⟩ := repeat_copies "𝕊" hthree
  obtain ⟨r, hr⟩ := hsucceeds.mpr ⟨by decide, by decide⟩
  obtain ⟨r', hr'⟩ := hsucceeds'.mpr ⟨by decide, by decide⟩
  obtain rfl : r = .string "𝕊𝕊" := hjoined r hr
  obtain rfl : r' = .string "𝕊𝕊𝕊" := hjoined' r' hr'
  exact ⟨⟨htwo, hmany⟩, hlong (by decide) (by decide), hr,
    hsum _ 1 _ _ hone (by decide) (by decide) (.inr ⟨by decide, by decide, rfl⟩) hr'⟩

end Function

end Builtin.Texts

end Formula
