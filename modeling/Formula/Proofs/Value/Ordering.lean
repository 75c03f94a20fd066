import Formula.Evaluation.Operator
import Formula.Proofs.Double.Order
import Formula.Proofs.Value.Comparison
import Mathlib.Data.String.Basic

set_option autoImplicit false

/-!
# Which values are ordered

The operators `<`, `<=`, `>` and `>=` order numbers, texts, timestamps and booleans among each other, and
values of different kinds as the numbers that they are taken for. Values that have no such numbers are
refused, unless one of them is a NaN, which stands in no order to anything.

## Main definitions

* `Formula.Value.Stands` — how two values stand to each other.
* `Formula.Value.Incomparable` — which values are not compared at all.
* `Formula.BinaryOperator.ordering?` — what an operator asks of the order of its operands.

## Main results

* `Formula.Value.order_outcome` — the operators hold as the values stand to each other, and fail for
  incomparable ones.
-/

namespace Formula

/-- How two numbers stand to each other: as their exact values, and a NaN in no order to anything. -/
def Double.standing? (x y : Double) : Option Ordering :=
  if x.isNaN || y.isNaN then none else some (cmp x.extended y.extended)

/-- Numbers compare as they stand to each other. -/
lemma Double.compare?_eq_standing? (x y : Double) : x.compare? y = x.standing? y := by
  by_cases h : (x.isNaN || y.isNaN) = true
  · rw [compare?, standing?, if_pos h, if_pos h]
  · rw [standing?, if_neg h]
    rw [Bool.or_eq_true, not_or, Bool.not_eq_true, Bool.not_eq_true] at h
    exact compare?_eq_cmp h.1 h.2

/-- What an operator that orders its operands asks of their order. -/
def BinaryOperator.ordering? (op : BinaryOperator) : Option (Ordering → Bool) :=
  match op with
  | .lt => some Ordering.isLT
  | .le => some Ordering.isLE
  | .gt => some Ordering.isGT
  | .ge => some Ordering.isGE
  | _ => none

namespace Value

/-- How two values stand to each other, or that they stand in no order. -/
inductive Stands : Value → Value → Option Ordering → Prop
  /-- Numbers are ordered by their exact values. -/
  | numbers (x y : Double) : Stands (.number x) (.number y) (x.standing? y)
  /-- Texts are ordered by the code points of their characters. -/
  | strings (s t : String) : Stands (.string s) (.string t) (some (cmp s t))
  /-- Timestamps are ordered by their instants. -/
  | timestamps (t u : Timestamp) :
      Stands (.timestamp t) (.timestamp u) (some (cmp t.instant u.instant))
  /-- False is less than true. -/
  | bools (a b : Bool) : Stands (.bool a) (.bool b) (some (cmp a b))
  /-- A NaN stands in no order to a value of another kind. -/
  | nan {v w : Value} (hkind : v.typeName ≠ w.typeName) (hnan : (v.isNaN || w.isNaN) = true) :
      Stands v w none
  /-- Values of different kinds are ordered as the numbers that they are taken for. -/
  | coerced {v w : Value} {x y : Double} (hkind : v.typeName ≠ w.typeName)
      (hv : v.number? = some x) (hw : w.number? = some y)
      (hx : x.isNaN = false) (hy : y.isNaN = false) : Stands v w (some (cmp x.extended y.extended))

/-- The values are not of one kind that is ordered by itself, none of them is a NaN, and not both of them
are taken for numbers. -/
def Incomparable (v w : Value) : Prop :=
  ¬(v.typeName = w.typeName ∧ v.typeName ∈ comparableKinds) ∧ (v.isNaN || w.isNaN) = false ∧
    (v.number? = none ∨ w.number? = none)

/-- The values are of different kinds, none of them is a NaN, and both are taken for numbers, one of
which is a NaN. -/
def ReadsNaN (v w : Value) : Prop :=
  v.typeName ≠ w.typeName ∧ (v.isNaN || w.isNaN) = false ∧
    ∃ x y, v.number? = some x ∧ w.number? = some y ∧ (x.isNaN || y.isNaN) = true

variable {v w : Value} {symbol : String} {holds : Ordering → Bool}

/-- Values of different kinds are compared as numbers.

**Proof sketch.** The first branches are for values of one kind. -/
lemma compare?_of_typeName_ne (h : v.typeName ≠ w.typeName) :
    v.compare? w = v.number?.bind fun x => w.number?.bind fun y => x.compare? y := by
  unfold compare?
  split
  · exact absurd rfl h
  · exact absurd rfl h
  · exact absurd rfl h
  · exact absurd rfl h
  · cases v.number? <;> cases w.number? <;> rfl

/-- A NaN and a value of another kind do not compare.

**Proof sketch.** Either value may be the NaN, and no number compares with it. -/
lemma compare?_of_isNaN (hkind : v.typeName ≠ w.typeName) (hnan : (v.isNaN || w.isNaN) = true) :
    v.compare? w = none := by
  rw [compare?_of_typeName_ne hkind]
  rcases Bool.or_eq_true_iff.mp hnan with hv | hw
  · cases v with
    | number x =>
      change x.isNaN = true at hv
      cases w.number? <;> simp [number?, Double.compare?, hv]
    | _ => cases hv
  · cases w with
    | number y =>
      change y.isNaN = true at hw
      cases v.number? <;> simp [number?, Double.compare?, hw]
    | _ => cases hw

/-- Values that are not compared as values of their kind compare as numbers, or not at all.

**Proof sketch.** The branches for values of one kind are excluded, and in the last branch a number is
missing. -/
lemma compare?_of_incomparable (h : v.Incomparable w) : v.compare? w = none := by
  obtain ⟨hkind, -, hnumber⟩ := h
  unfold compare?
  split
  · exact absurd ⟨rfl, by simp [typeName, comparableKinds]⟩ hkind
  · exact absurd ⟨rfl, by simp [typeName, comparableKinds]⟩ hkind
  · exact absurd ⟨rfl, by simp [typeName, comparableKinds]⟩ hkind
  · exact absurd ⟨rfl, by simp [typeName, comparableKinds]⟩ hkind
  · rcases hnumber with hv | hw
    · rw [hv]
    · rw [hw]
      cases v.number? <;> rfl

/-! ## Operators -/

/-- Where values do not compare because of a NaN, no order between them holds. -/
lemma order_of_isNaN (h : v.compare? w = none) (hnan : (v.isNaN || w.isNaN) = true) :
    v.order symbol holds w = .ok (.bool false) := by
  simp only [order, h, hnan, if_true]

/-- Two numbers compare as they stand to each other.

**Proof sketch.** If they stand in no order, then one of them is a NaN. -/
lemma order_numbers (x y : Double) :
    (number x).order symbol holds (number y) = .ok (.bool ((x.standing? y).any holds)) := by
  have hcompare : (number x).compare? (number y) = x.standing? y := Double.compare?_eq_standing? x y
  cases hstanding : x.standing? y with
  | some o => exact order_eq _ _ (hcompare.trans hstanding)
  | none =>
    have hnan : (x.isNaN || y.isNaN) = true := by
      by_contra hne
      rw [Double.standing?, if_neg hne] at hstanding
      cases hstanding
    exact order_of_isNaN (hcompare.trans hstanding) hnan

/-- An order of two values holds as they stand to each other, and not if they stand in none.

**Proof sketch.** One case for each way in which values stand to each other. -/
lemma order_of_stands {o : Option Ordering} (h : Stands v w o) :
    v.order symbol holds w = .ok (.bool (o.any holds)) := by
  cases h with
  | numbers x y => exact order_numbers x y
  | strings s t => exact order_eq _ _ (congrArg some (cmp_eq_compare s t).symm)
  | timestamps t u =>
    exact order_eq _ _ (congrArg some (cmp_eq_compare t.instant u.instant).symm)
  | bools a b => exact order_eq _ _ (congrArg some (cmp_eq_compare a b).symm)
  | nan hkind hnan => exact order_of_isNaN (compare?_of_isNaN hkind hnan) hnan
  | coerced hkind hv hw hx hy =>
    refine order_eq _ _ ?_
    rw [compare?_of_typeName_ne hkind, hv, hw]
    exact Double.compare?_eq_cmp hx hy

/-- Incomparable values are refused. -/
lemma order_of_incomparable (h : v.Incomparable w) :
    v.order symbol holds w = .error (.typeMismatch symbol v.typeName w.typeName) := by
  simp only [order, compare?_of_incomparable h, h.2.1, Bool.false_eq_true, if_false]

/-- Values that stand to each other in some way are not refused, and a refusal names their kinds.

**Proof sketch.** An order is only refused where the values do not compare and none of them is a NaN.
Where they stand to each other, it is answered. -/
lemma eq_of_order_error {e : EvalError} (h : v.order symbol holds w = .error e) :
    e = .typeMismatch symbol v.typeName w.typeName ∧ ∀ o, ¬Stands v w o := by
  constructor
  · unfold order at h
    split at h
    · cases h
    · split at h
      · cases h
      · exact (Except.error.inj h).symm
  · intro o ho
    rw [order_of_stands ho] at h
    cases h

/-- Values of one comparable kind stand to each other.

**Proof sketch.** One case for each kind. -/
lemma exists_stands_of_typeName_eq (hkind : v.typeName = w.typeName)
    (hmem : v.typeName ∈ comparableKinds) : ∃ o, Stands v w o := by
  cases alike_of_typeName_eq hkind with
  | number x y => exact ⟨_, .numbers x y⟩
  | string s t => exact ⟨_, .strings s t⟩
  | timestamp t u => exact ⟨_, .timestamps t u⟩
  | bool a b => exact ⟨_, .bools a b⟩
  | null | array | map => simp [typeName, comparableKinds] at hmem

/-- A value that is taken for a number is of a kind that is ordered by itself. -/
lemma mem_comparableKinds_of_number? {x : Double} (h : v.number? = some x) :
    v.typeName ∈ comparableKinds := by
  cases v with
  | bool | number | string => simp [typeName, comparableKinds]
  | null | array | map | timestamp => cases h

/-- A NaN is taken for a number. -/
lemma exists_number?_of_isNaN (h : v.isNaN = true) : ∃ x, v.number? = some x := by
  cases v with
  | number x => exact ⟨x, rfl⟩
  | _ => cases h

/-- Two values of one kind that is not ordered by itself are incomparable, as are values of different
kinds without numbers, unless there is a NaN. What is left are values that read as NaNs.

**Proof sketch.** Values of one comparable kind stand to each other. Otherwise a NaN settles it, and
without one both have to be taken for numbers; these stand to each other unless one of them is read as a
NaN. -/
lemma stands_or_incomparable (v w : Value) :
    (∃ o, Stands v w o) ∨ v.Incomparable w ∨ v.ReadsNaN w := by
  by_cases hsame : v.typeName = w.typeName ∧ v.typeName ∈ comparableKinds
  · exact .inl (exists_stands_of_typeName_eq hsame.1 hsame.2)
  · have hkind {u : Value} {x : Double} (hu : u = v ∨ u = w) (hx : u.number? = some x) :
        v.typeName ≠ w.typeName := by
      intro heq
      have hmem := mem_comparableKinds_of_number? hx
      rcases hu with rfl | rfl
      · exact hsame ⟨heq, hmem⟩
      · exact hsame ⟨heq, heq ▸ hmem⟩
    by_cases hnan : (v.isNaN || w.isNaN) = true
    · rcases Bool.or_eq_true_iff.mp hnan with hv | hw
      · obtain ⟨x, hx⟩ := exists_number?_of_isNaN hv
        exact .inl ⟨none, .nan (hkind (.inl rfl) hx) hnan⟩
      · obtain ⟨y, hy⟩ := exists_number?_of_isNaN hw
        exact .inl ⟨none, .nan (hkind (.inr rfl) hy) hnan⟩
    · rw [Bool.not_eq_true] at hnan
      cases hv : v.number? with
      | none => exact .inr (.inl ⟨hsame, hnan, .inl hv⟩)
      | some x =>
        cases hw : w.number? with
        | none => exact .inr (.inl ⟨hsame, hnan, .inr hw⟩)
        | some y =>
          by_cases hread : (x.isNaN || y.isNaN) = true
          · exact .inr (.inr ⟨hkind (.inl rfl) hv, hnan, x, y, hv, hw, hread⟩)
          · rw [Bool.not_eq_true, Bool.or_eq_false_iff] at hread
            exact .inl ⟨_, .coerced (hkind (.inl rfl) hv) hv hw hread.1 hread.2⟩

/-- **Orders hold as the values stand to each other, and fail for incomparable values.**

1. Where two values stand in some order, an operator holds or not as this order says. Where they stand
   in no order, none of the operators holds.
2. For incomparable values they fail, with the kinds of both.
3. There is no other failure, and none for values that stand to each other in some way.
4. This leaves out no values but those of which one is a text that denotes a NaN.

**Proof sketch.** Values of different kinds are compared as numbers. This comparison has no result for
NaNs and for values without numbers, and whether one of the values is a NaN tells the two apart. -/
theorem order_outcome {op : BinaryOperator} {holds : Ordering → Bool}
    (hop : op.ordering? = some holds) (v w : Value) :
    (∀ o, Stands v w o → op.apply v w = .ok (.bool (o.any holds))) ∧
    (v.Incomparable w →
      op.apply v w = .error (.typeMismatch op.symbol.text v.typeName w.typeName)) ∧
    (∀ e, op.apply v w = .error e →
      e = .typeMismatch op.symbol.text v.typeName w.typeName ∧ ∀ o, ¬Stands v w o) ∧
    ((∃ o, Stands v w o) ∨ v.Incomparable w ∨ v.ReadsNaN w) := by
  have happly : op.apply v w = v.order op.symbol.text holds w := by
    cases op <;> cases hop <;> rfl
  rw [happly]
  exact ⟨fun o => order_of_stands, order_of_incomparable, fun e => eq_of_order_error,
    stands_or_incomparable v w⟩

/-- True is less than a text that denotes one and a half, and an array is not compared to a number. -/
theorem order_outcome_true :
    BinaryOperator.lt.ordering? = some Ordering.isLT ∧
    BinaryOperator.lt.apply (bool true) (string " 1.5 ") = .ok (.bool true) ∧
    BinaryOperator.lt.apply (array []) (number (Double.ofNat 2)) =
      .error (.typeMismatch "<" "array" "number") := by
  have hread : (string " 1.5 ").number? = some ⟨0x3ff8000000000000⟩ := by decide +kernel
  have hcompare : (Double.ofNat 1).compare? ⟨0x3ff8000000000000⟩ = some .lt := by decide
  have hone : (Double.ofNat 1).isNaN = false := by decide
  have hhalf : (⟨0x3ff8000000000000⟩ : Double).isNaN = false := by decide
  have hstands : Stands (bool true) (string " 1.5 ") (some .lt) := by
    rw [← hcompare, Double.compare?_eq_cmp hone hhalf]
    exact .coerced (by decide) rfl hread hone hhalf
  have hincomparable : (array []).Incomparable (number (Double.ofNat 2)) :=
    ⟨by decide, by decide, .inl rfl⟩
  refine ⟨rfl, ?_, ?_⟩
  · exact (@order_outcome .lt _ rfl _ _).1 (some .lt) hstands
  · exact (@order_outcome .lt _ rfl _ _).2.1 hincomparable

/-- It is not so that all values of different kinds that are not both taken for numbers are refused: a
NaN is not less than an array. -/
theorem order_of_nan_beside_array :
    (number Double.nan).typeName ≠ (array []).typeName ∧ (array []).number? = none ∧
    BinaryOperator.lt.apply (number Double.nan) (array []) = .ok (.bool false) :=
  ⟨by decide, rfl, rfl⟩

end Value

end Formula
