import Formula.Builtin.Template
import Formula.Evaluation.Operator
import Formula.Evaluation.Path
import Formula.Proofs.Double.Value
import Mathlib.Tactic.NormNum

set_option autoImplicit false

/-!
# Whole numbers of 64 bits

Where an integer is needed, a value is taken for its number, whose exact value has to be an integer of
64 bits. The greatest of these is no binary64 number: `2 ^ 63` is the next one, and it is the only number
that is let through for another integer than its own.

## Main definitions

* `Formula.Value.Denotes` — the exact value of a value that is taken for a number.
* `Formula.Value.DenotesWord` — the same, within 64 bits.
* `Formula.BinaryOperator.onWords?` — what an operator on whole numbers does with two of them.

## Main results

* `Formula.Value.toInteger_eq_ok_iff` — which integer a value is taken for.
* `Formula.Value.integers_exact` — what reads an integer reads the exact value, but for `2 ^ 63`.
-/

namespace Formula

variable {α β ε : Type}

/-- Two computations one after the other have a result if the first one has, and the second one with it. -/
lemma Except.bind_eq_ok_iff {m : Except ε α} {f : α → Except ε β} {b : β} :
    m >>= f = .ok b ↔ ∃ a, m = .ok a ∧ f a = .ok b := by
  cases m <;> simp [bind, Except.bind]

namespace Value

variable {v w r : Value} {operation : String} {x : Double} {i : Int}

/-! ## What a value denotes -/

/-- The value is taken for a finite number whose exact value is an integer. -/
def Denotes (v : Value) (i : Int) : Prop :=
  ∃ x, v.number? = some x ∧ x.isFinite = true ∧ x.value = i

/-- The value is taken for a number whose exact value is a signed integer of 64 bits. -/
def DenotesWord (v : Value) (i : Int) : Prop :=
  v.Denotes i ∧ -2 ^ 63 ≤ i ∧ i < 2 ^ 63

/-- A number denotes an integer exactly if it is one. -/
lemma number_denotes_iff : (number x).Denotes i ↔ x.toInt? = some i := by
  simp [Denotes, number?, Double.toInt?_eq_some_iff]

/-- A value is taken for a number exactly if it has one. -/
lemma toNumber_eq_ok_iff : v.toNumber operation = .ok x ↔ v.number? = some x := by
  unfold toNumber
  cases v.number? <;> simp

/-- Integers are cut off at the greatest one, after those beyond `2 ^ 63` have been refused.

**Proof sketch.** A number within the bounds is cut off only if it is `2 ^ 63`, and then to the greatest
integer. -/
lemma integerOf?_eq_some_iff :
    integerOf? x = some i ↔ x.isFinite = true ∧
      (x.value = i ∧ -2 ^ 63 ≤ i ∧ i < 2 ^ 63 ∨ x.value = (2 ^ 63 : Int) ∧ i = greatestInteger) := by
  have hcut : integerOf? x = some i ↔
      ∃ j, x.toInt? = some j ∧ j.natAbs ≤ 2 ^ 63 ∧ min j greatestInteger = i := by
    unfold integerOf?
    cases x.toInt? <;> simp
  rw [hcut]
  simp only [Double.toInt?_eq_some_iff]
  unfold greatestInteger
  constructor
  · rintro ⟨j, ⟨hfinite, hvalue⟩, hbound, rfl⟩
    refine ⟨hfinite, ?_⟩
    by_cases hj : j = 2 ^ 63
    · exact .inr ⟨hj ▸ hvalue, by omega⟩
    · rw [min_eq_left (by omega)]
      exact .inl ⟨hvalue, by omega, by omega⟩
  · rintro ⟨hfinite, ⟨hvalue, hle, hlt⟩ | ⟨hvalue, rfl⟩⟩
    · exact ⟨i, ⟨hfinite, hvalue⟩, by omega, by omega⟩
    · exact ⟨2 ^ 63, ⟨hfinite, hvalue⟩, by omega, by omega⟩

/-- Which integer a value is taken for. -/
theorem toInteger_eq_ok_iff :
    v.toInteger operation = .ok i ↔ ∃ x, v.toNumber operation = .ok x ∧ x.isFinite = true ∧
      (x.value = i ∧ -2 ^ 63 ≤ i ∧ i < 2 ^ 63 ∨ x.value = (2 ^ 63 : Int) ∧ i = greatestInteger) := by
  simp only [toInteger, Except.bind_eq_ok_iff]
  refine exists_congr fun x => and_congr_right fun _ => ?_
  rw [← integerOf?_eq_some_iff]
  cases integerOf? x <;> simp

/-- What a value is taken for is a signed integer of 64 bits. -/
lemma bounds_of_toInteger (h : v.toInteger operation = .ok i) : -2 ^ 63 ≤ i ∧ i < 2 ^ 63 := by
  obtain ⟨x, -, -, ⟨-, hbounds⟩ | ⟨-, rfl⟩⟩ := toInteger_eq_ok_iff.mp h
  · exact hbounds
  · decide

/-- Apart from `2 ^ 63`, the integer is the exact value.

**Proof sketch.** The second case of `integerOf?_eq_some_iff` is excluded, and the first one says that
the value is exact. -/
lemma toInteger_eq_ok_iff_denotesWord (h : ¬v.Denotes (2 ^ 63)) :
    v.toInteger operation = .ok i ↔ v.DenotesWord i := by
  simp only [toInteger_eq_ok_iff, toNumber_eq_ok_iff]
  constructor
  · rintro ⟨x, hx, hfinite, ⟨hvalue, hbounds⟩ | ⟨hvalue, -⟩⟩
    · exact ⟨⟨x, hx, hfinite, hvalue⟩, hbounds⟩
    · exact absurd ⟨x, hx, hfinite, hvalue⟩ h
  · rintro ⟨⟨x, hx, hfinite, hvalue⟩, hbounds⟩
    exact ⟨x, hx, hfinite, .inl ⟨hvalue, hbounds⟩⟩

end Value

/-! ## What reads integers -/

/-- What an operator on whole numbers does with two of them. -/
def BinaryOperator.onWords? (op : BinaryOperator) : Option (Int → Int → Except EvalError Int) :=
  match op with
  | .bitAnd => some (Value.onWords (· &&& ·))
  | .bitOr => some (Value.onWords (· ||| ·))
  | .bitXor => some (Value.onWords (· ^^^ ·))
  | .shiftLeft => some (Value.shiftBy BitVec.shiftLeft)
  | .shiftRight => some (Value.shiftBy BitVec.sshiftRight)
  | _ => none

/-- An operator on whole numbers does with its operands what is said of it. -/
lemma BinaryOperator.apply_of_onWords? {op : BinaryOperator}
    {f : Int → Int → Except EvalError Int} (h : op.onWords? = some f) (v w : Value) :
    op.apply v w = v.onIntegers op.symbol.text f w := by
  cases op <;> cases h <;> rfl

namespace Value

variable {v w r : Value} {i : Int}

/-- An operator on whole numbers has a result if both operands denote integers of 64 bits and the
operation has one.

**Proof sketch.** Each operand is read as the integer that it denotes. -/
lemma onIntegers_eq_ok_iff {symbol : String} {f : Int → Int → Except EvalError Int}
    (hv : ¬v.Denotes (2 ^ 63)) (hw : ¬w.Denotes (2 ^ 63)) :
    v.onIntegers symbol f w = .ok r ↔
      ∃ i j k, v.DenotesWord i ∧ w.DenotesWord j ∧ f i j = .ok k ∧ r = ofInt k := by
  simp only [onIntegers, Except.bind_eq_ok_iff, toInteger_eq_ok_iff_denotesWord hv,
    toInteger_eq_ok_iff_denotesWord hw]
  constructor
  · rintro ⟨i, hi, j, hj, k, hk, ⟨⟩⟩
    exact ⟨i, j, k, hi, hj, hk, rfl⟩
  · rintro ⟨i, j, k, hi, hj, hk, rfl⟩
    exact ⟨i, hi, j, hj, k, hk, rfl⟩

/-- The complement of a value is that of the integer it denotes. -/
lemma bitNot_eq_ok_iff (hv : ¬v.Denotes (2 ^ 63)) :
    UnaryOperator.bitNot.apply v = .ok r ↔ ∃ i, v.DenotesWord i ∧ r = ofInt (~~~word i).toInt := by
  simp only [UnaryOperator.apply, Except.bind_eq_ok_iff, toInteger_eq_ok_iff_denotesWord hv]
  refine exists_congr fun i => and_congr_right fun _ => ?_
  exact ⟨fun h => (Except.ok.inj h).symm, fun h => congrArg _ h.symm⟩

/-- An entry is found at a position that is not negative and that the list has.

**Proof sketch.** Below zero nothing is found, and otherwise the list says. -/
lemma entryAt_eq_ok_iff {items : List α} {a : α} :
    entryAt items i = .ok a ↔ 0 ≤ i ∧ items[i.toNat]? = some a := by
  unfold entryAt
  extract_lets outside
  split
  · next h =>
    exact ⟨nofun, fun hi => absurd hi.1 (Int.not_le.mpr h)⟩
  · next h =>
    rw [Int.not_lt] at h
    simp only [h, true_and]
    cases items[i.toNat]? <;> simp

/-- Only numbers are positions. -/
lemma position_eq_ok_iff (hv : ¬v.Denotes (2 ^ 63)) :
    v.position = .ok i ↔ (∃ x, v = .number x) ∧ v.DenotesWord i := by
  cases v with
  | number x => simpa [position] using toInteger_eq_ok_iff_denotesWord hv
  | _ => simp [position]

/-- The item of an array at the position that a value means. -/
lemma element_array_of_position (items : List Value) (h : v.position = .ok i) :
    (array items).element v = entryAt items i := by
  show (v.position >>= fun i => entryAt items i) = _
  rw [h]
  rfl

/-- An item is found at its position. -/
lemma element_array_of_getElem? {items : List Value} {i : Nat} (hv : v.position = .ok i)
    (h : items[i]? = some w) : (array items).element v = .ok w := by
  rw [element_array_of_position items hv]
  exact entryAt_eq_ok_iff.mpr ⟨Int.natCast_nonneg i, h⟩

/-- An element of an array is the item at the integer that the position denotes. -/
lemma element_array_eq_ok_iff {items : List Value} (hv : ¬v.Denotes (2 ^ 63)) :
    (array items).element v = .ok r ↔
      ∃ i, (∃ x, v = .number x) ∧ v.DenotesWord i ∧ 0 ≤ i ∧ items[i.toNat]? = some r := by
  simp only [element, Except.bind_eq_ok_iff, position_eq_ok_iff hv, entryAt_eq_ok_iff, and_assoc]

/-- An element of a text is the character at the integer that the position denotes.

**Proof sketch.** The character is found as an item is, and becomes a text. -/
lemma element_string_eq_ok_iff {s : String} (hv : ¬v.Denotes (2 ^ 63)) :
    (string s).element v = .ok r ↔
      ∃ i c, (∃ x, v = .number x) ∧ v.DenotesWord i ∧ 0 ≤ i ∧ s.toList[i.toNat]? = some c ∧
        r = ofChars [c] := by
  simp only [element, Except.bind_eq_ok_iff, position_eq_ok_iff hv, entryAt_eq_ok_iff, and_assoc]
  constructor
  · rintro ⟨i, hnumber, hi, c, hle, hc, ⟨⟩⟩
    exact ⟨i, c, hnumber, hi, hle, hc, rfl⟩
  · rintro ⟨i, c, hnumber, hi, hle, hc, rfl⟩
    exact ⟨i, hnumber, hi, c, hle, hc, rfl⟩

/-- A directive for integers writes the digits of the integer that its value denotes.

**Proof sketch.** The value is the next one, and it is read as the integer it denotes. -/
lemma write_integer_eq_ok_iff {name : String} {rest left : List Value} {cs : List Char}
    (hv : ¬v.Denotes (2 ^ 63)) :
    Template.write name .integer (v :: rest) = .ok (cs, left) ↔
      ∃ i, v.DenotesWord i ∧ cs = (Double.intText i).toList ∧ left = rest := by
  have hnext : Template.next name 'd' (v :: rest) = .ok (v, rest) := rfl
  simp only [Template.write, hnext, Except.bind_eq_ok_iff]
  constructor
  · rintro ⟨_, ⟨⟩, i, hi, ⟨⟩⟩
    exact ⟨i, (toInteger_eq_ok_iff_denotesWord hv).mp hi, rfl, rfl⟩
  · rintro ⟨i, hi, rfl, rfl⟩
    exact ⟨_, rfl, i, (toInteger_eq_ok_iff_denotesWord hv).mpr hi, rfl⟩

/-- **Integers are read exactly, but for `2 ^ 63`.** A value is taken for an integer exactly if it is
taken for a number whose exact value is a signed integer of 64 bits, and then for this integer; or if
the exact value is `2 ^ 63`, and then for the integer before it. So wherever integers are read of values
that do not denote `2 ^ 63`, these are the exact values:

1. the operands of the operators on bits and of shifts,
2. the positions in an array or a text, which only numbers are,
3. the values that a template writes as whole numbers.

**Proof sketch.** A number that is equal to an integer of at most `2 ^ 63` in absolute value is let through,
and cut off at the greatest integer of 64 bits, which only changes `2 ^ 63`. -/
theorem integers_exact (v w : Value) :
    (∀ operation i, v.toInteger operation = .ok i ↔
      ∃ x, v.toNumber operation = .ok x ∧ x.isFinite = true ∧
        (x.value = i ∧ -2 ^ 63 ≤ i ∧ i < 2 ^ 63 ∨ x.value = 2 ^ 63 ∧ i = 2 ^ 63 - 1)) ∧
    (¬v.Denotes (2 ^ 63) → ¬w.Denotes (2 ^ 63) →
      (∀ r, UnaryOperator.bitNot.apply v = .ok r ↔
        ∃ i, v.DenotesWord i ∧ r = ofInt (~~~word i).toInt) ∧
      (∀ (op : BinaryOperator) f, op.onWords? = some f → ∀ r, op.apply v w = .ok r ↔
        ∃ i j k, v.DenotesWord i ∧ w.DenotesWord j ∧ f i j = .ok k ∧ r = ofInt k) ∧
      (∀ items r, (array items).element v = .ok r ↔
        ∃ i, (∃ x, v = .number x) ∧ v.DenotesWord i ∧ 0 ≤ i ∧ items[i.toNat]? = some r) ∧
      (∀ s r, (string s).element v = .ok r ↔
        ∃ i c, (∃ x, v = .number x) ∧ v.DenotesWord i ∧ 0 ≤ i ∧ s.toList[i.toNat]? = some c ∧
          r = ofChars [c]) ∧
      (∀ name rest cs left, Template.write name .integer (v :: rest) = .ok (cs, left) ↔
        ∃ i, v.DenotesWord i ∧ cs = (Double.intText i).toList ∧ left = rest)) := by
  refine ⟨fun operation i => ?_, fun hv hw => ⟨?_, ?_, ?_, ?_, ?_⟩⟩
  · rw [toInteger_eq_ok_iff]
    norm_num [greatestInteger]
  · exact fun r => bitNot_eq_ok_iff hv
  · intro op f hf r
    rw [BinaryOperator.apply_of_onWords? hf]
    exact onIntegers_eq_ok_iff hv hw
  · exact fun items r => element_array_eq_ok_iff hv
  · exact fun s r => element_string_eq_ok_iff hv
  · exact fun name rest cs left => write_integer_eq_ok_iff hv

/-- The least integer of 64 bits is read exactly, and so are operands and positions.

**Proof sketch.** The integers behind the numbers are computed, and they are within 64 bits. The results
follow from the general theorems. -/
theorem integers_exact_least :
    (number (Double.ofInt (-2 ^ 63))).toInteger "~" = .ok (-2 ^ 63) ∧
    (¬(number (Double.ofInt 1)).Denotes (2 ^ 63) ∧ ¬(number (Double.ofInt 4)).Denotes (2 ^ 63)) ∧
    BinaryOperator.shiftLeft.apply (number (Double.ofInt 1)) (number (Double.ofInt 4)) =
      .ok (ofInt 16) ∧
    (string "añb").element (number (Double.ofInt 1)) = .ok (ofChars ['ñ']) := by
  have hleast : (Double.ofInt (-2 ^ 63)).toInt? = some (-2 ^ 63) := by decide +kernel
  have hone : (Double.ofInt 1).toInt? = some 1 := by decide +kernel
  have hfour : (Double.ofInt 4).toInt? = some 4 := by decide +kernel
  have hv : ¬(number (Double.ofInt 1)).Denotes (2 ^ 63) := by
    rw [number_denotes_iff, hone]
    decide
  have hw : ¬(number (Double.ofInt 4)).Denotes (2 ^ 63) := by
    rw [number_denotes_iff, hfour]
    decide
  have hword : (number (Double.ofInt 1)).DenotesWord 1 :=
    ⟨number_denotes_iff.mpr hone, by decide, by decide⟩
  have hamount : (number (Double.ofInt 4)).DenotesWord 4 :=
    ⟨number_denotes_iff.mpr hfour, by decide, by decide⟩
  obtain ⟨hfinite, hvalue⟩ := Double.toInt?_eq_some_iff.mp hleast
  obtain ⟨-, hshift, -, hposition, -⟩ :=
    (integers_exact (number (Double.ofInt 1)) (number (Double.ofInt 4))).2 hv hw
  refine ⟨?_, ⟨hv, hw⟩, ?_, ?_⟩
  · exact ((integers_exact _ .null).1 "~" _).mpr
      ⟨_, rfl, hfinite, .inl ⟨hvalue, by decide, by decide⟩⟩
  · exact (hshift .shiftLeft _ rfl _).mpr ⟨1, 4, 16, hword, hamount, rfl, rfl⟩
  · exact (hposition _ _).mpr ⟨1, 'ñ', ⟨_, rfl⟩, hword, by decide, rfl, rfl⟩

/-- It is not so that every value is taken for its exact value: `2 ^ 63` is taken for the integer before
it, and written as such.

**Proof sketch.** All four parts are computed. -/
theorem integer_of_two_pow_63 :
    (number (Double.ofNat (2 ^ 63))).toNumber "format" = .ok (Double.ofNat (2 ^ 63)) ∧
    (Double.ofNat (2 ^ 63)).value = 2 ^ 63 ∧
    (number (Double.ofNat (2 ^ 63))).toInteger "format" = .ok (2 ^ 63 - 1) ∧
    Template.write "format" .integer [number (Double.ofNat (2 ^ 63))] =
      .ok ("9223372036854775807".toList, []) := by
  have hnext : (Double.ofNat (2 ^ 63)).toInt? = some (2 ^ 63) := by decide +kernel
  have hvalue := (Double.toInt?_eq_some_iff.mp hnext).2
  have hread : (number (Double.ofNat (2 ^ 63))).toInteger "format" = .ok (2 ^ 63 - 1) := by
    decide +kernel
  refine ⟨rfl, by exact_mod_cast hvalue, hread, ?_⟩
  simp only [Template.write, Template.next, bind, Except.bind, hread]
  rfl

end Value

end Formula
