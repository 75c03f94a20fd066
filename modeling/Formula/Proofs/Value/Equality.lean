import Formula.Proofs.Double.Order
import Formula.Proofs.Value.Comparison
import Mathlib.Data.List.Forall2

set_option autoImplicit false

/-!
# Equality of values

Equality is symmetric and transitive, and a value is equal to itself unless it contains a NaN. So a value
that contains one is equal to nothing.

## Main definitions

* `Formula.Value.ContainsNaN` — a number in the value, at any depth, is a NaN.

## Main results

* `Formula.Value.eq_swap`, `Formula.Value.eq_trans` — equality is symmetric and transitive.
* `Formula.Value.eq_self_iff` — which values are equal to themselves.
-/

namespace Formula

/-! ## Lists by their items -/

section Lists

variable {α : Type} {R : α → α → Prop} {xs ys zs : List α}

/-- Lists of related items may be swapped if their items may.

**Proof sketch.** Induction on the first list. -/
lemma forall₂_swap (h : ∀ x ∈ xs, ∀ y, R x y ↔ R y x) :
    List.Forall₂ R xs ys ↔ List.Forall₂ R ys xs := by
  induction xs generalizing ys with
  | nil => cases ys <;> simp
  | cons x rest ih =>
    obtain ⟨hx, hrest⟩ := List.forall_mem_cons.mp h
    cases ys with
    | nil => simp
    | cons y others => rw [List.forall₂_cons, List.forall₂_cons, hx, ih hrest]

/-- If the relation leads on from each item of the first list, it leads from the first list to the
third.

**Proof sketch.** Induction on how the first two lists are related. -/
lemma forall₂_trans (h : ∀ x ∈ xs, ∀ y z, R x y → R y z → R x z) (hxy : List.Forall₂ R xs ys)
    (hyz : List.Forall₂ R ys zs) : List.Forall₂ R xs zs := by
  induction hxy generalizing zs with
  | nil => exact hyz
  | cons hx _ ih =>
    obtain ⟨hfirst, hrest⟩ := List.forall_mem_cons.mp h
    cases hyz with
    | cons hy hothers => exact .cons (hfirst _ _ hx hy) (ih hrest hothers)

end Lists

/-! ## Numbers -/

namespace Double

variable {x y z : Double}

/-- Doubles are equal in either order. -/
lemma eq_swap (x y : Double) : x.eq y = y.eq x := by
  rw [Bool.eq_iff_iff, eq_iff, eq_iff, eq_comm (a := x.key)]
  exact and_left_comm

/-- Doubles that are equal to one double are equal. -/
lemma eq_trans (hxy : x.eq y = true) (hyz : y.eq z = true) : x.eq z = true := by
  rw [eq_iff] at hxy hyz ⊢
  exact ⟨hxy.1, hyz.2.1, hxy.2.2.trans hyz.2.2⟩

/-- A double is equal to itself unless it is a NaN. -/
lemma eq_self_iff : x.eq x = true ↔ x.isNaN = false := by
  simp [eq_iff]

end Double

namespace Value

variable {a b c : Value} {items others : List Value} {fields further : List (String × Value)}

/-- Fields with one name and equal entries. -/
def EqField (field other : String × Value) : Prop :=
  field.1 = other.1 ∧ field.2.eq other.2 = true

/-- Arrays are equal item by item. -/
lemma eqItems_iff :
    eqItems items others = true ↔ List.Forall₂ (fun v w => v.eq w = true) items others := by
  induction items generalizing others with
  | nil => cases others <;> simp [eqItems]
  | cons v rest ih => cases others <;> simp [eqItems, ih]

/-- Maps are equal field by field. -/
lemma eqFields_iff : eqFields fields further = true ↔ List.Forall₂ EqField fields further := by
  induction fields generalizing further with
  | nil => cases further <;> simp [eqFields]
  | cons field rest ih => cases further <;> simp [eqFields, EqField, ih]

/-! ## Symmetry and transitivity -/

/-- Being of one kind holds in either order. -/
lemma Alike.symm (h : Alike a b) : Alike b a := by
  cases h <;> constructor

/-- Values are equal in either order if those of one kind are. -/
lemma eq_swap_of_alike (h : ∀ b, Alike a b → (a.eq b = true ↔ b.eq a = true)) (b : Value) :
    a.eq b = true ↔ b.eq a = true := by
  by_cases hab : Alike a b
  · exact h b hab
  · exact iff_of_false (mt alike_of_eq hab) fun hba => hab (alike_of_eq hba).symm

/-- Values are equal in either order.

**Proof sketch.** Induction on the first value. Only values of one kind are equal, so that the second is
of the same kind. Plain values are compared by an equation, arrays and maps by their parts. -/
lemma eq_swap (a b : Value) : a.eq b = true ↔ b.eq a = true := by
  induction a using Value.induction generalizing b with
  | null =>
    refine eq_swap_of_alike (fun b hb => ?_) b
    cases hb with
    | null => rfl
  | bool x =>
    refine eq_swap_of_alike (fun b hb => ?_) b
    cases hb with
    | bool _ y => rw [Value.eq, Value.eq, beq_iff_eq, beq_iff_eq, eq_comm]
  | number x =>
    refine eq_swap_of_alike (fun b hb => ?_) b
    cases hb with
    | number _ y => rw [Value.eq, Value.eq, Double.eq_swap]
  | string s =>
    refine eq_swap_of_alike (fun b hb => ?_) b
    cases hb with
    | string _ t => rw [Value.eq, Value.eq, beq_iff_eq, beq_iff_eq, eq_comm]
  | timestamp t =>
    refine eq_swap_of_alike (fun b hb => ?_) b
    cases hb with
    | timestamp _ u =>
      rw [Value.eq, Value.eq, Timestamp.eq, Timestamp.eq, beq_iff_eq, beq_iff_eq, eq_comm]
  | array items ih =>
    refine eq_swap_of_alike (fun b hb => ?_) b
    cases hb with
    | array _ others =>
      rw [Value.eq, Value.eq, eqItems_iff, eqItems_iff]
      exact forall₂_swap ih
  | map fields ih =>
    refine eq_swap_of_alike (fun b hb => ?_) b
    cases hb with
    | map _ others =>
      rw [Value.eq, Value.eq, eqFields_iff, eqFields_iff]
      refine forall₂_swap fun field hfield other => ?_
      rw [EqField, EqField, ih field hfield, eq_comm]

/-- Values that are equal to one value are equal.

**Proof sketch.** Induction on the first value. The other two are of its kind, and arrays and maps go on
to their parts. -/
lemma eq_trans (hab : a.eq b = true) (hbc : b.eq c = true) : a.eq c = true := by
  induction a using Value.induction generalizing b c with
  | null =>
    cases alike_of_eq hab with
    | null => exact hbc
  | bool x =>
    cases alike_of_eq hab with
    | bool _ y => cases alike_of_eq hbc with
      | bool _ z =>
        rw [Value.eq, beq_iff_eq] at *
        exact hab.trans hbc
  | number x =>
    cases alike_of_eq hab with
    | number _ y => cases alike_of_eq hbc with
      | number _ z =>
        rw [Value.eq] at *
        exact Double.eq_trans hab hbc
  | string s =>
    cases alike_of_eq hab with
    | string _ t => cases alike_of_eq hbc with
      | string _ u =>
        rw [Value.eq, beq_iff_eq] at *
        exact hab.trans hbc
  | timestamp t =>
    cases alike_of_eq hab with
    | timestamp _ u => cases alike_of_eq hbc with
      | timestamp _ w =>
        rw [Value.eq, Timestamp.eq, beq_iff_eq] at *
        exact hab.trans hbc
  | array items ih =>
    cases alike_of_eq hab with
    | array _ others => cases alike_of_eq hbc with
      | array _ more =>
        rw [Value.eq, eqItems_iff] at *
        exact forall₂_trans (fun v hv _ _ => ih v hv) hab hbc
  | map fields ih =>
    cases alike_of_eq hab with
    | map _ others => cases alike_of_eq hbc with
      | map _ more =>
        rw [Value.eq, eqFields_iff] at *
        refine forall₂_trans (fun field hfield _ _ h h' => ?_) hab hbc
        exact ⟨h.1.trans h'.1, ih field hfield h.2 h'.2⟩

/-! ## Values with a NaN -/

/-- A number in the value, at any depth, is a NaN. -/
def ContainsNaN (v : Value) : Prop :=
  ∃ x, .number x ∈ v.parts ∧ x.isNaN = true

/-- There is a NaN in an array if there is one in an item. -/
lemma containsNaN_array : (array items).ContainsNaN ↔ ∃ v ∈ items, v.ContainsNaN := by
  simp only [ContainsNaN, parts, List.mem_cons, reduceCtorEq, false_or, mem_partsAll]
  tauto

/-- There is a NaN in a map if there is one in an entry. -/
lemma containsNaN_map : (map fields).ContainsNaN ↔ ∃ field ∈ fields, field.2.ContainsNaN := by
  simp only [ContainsNaN, parts, List.mem_cons, reduceCtorEq, false_or, mem_partsFields]
  tauto

/-- A value is equal to itself unless it contains a NaN.

**Proof sketch.** Induction on the value. Arrays and maps are equal to themselves if all their parts
are. -/
lemma eq_self_iff (v : Value) : v.eq v = true ↔ ¬v.ContainsNaN := by
  induction v using Value.induction with
  | null | bool | string | timestamp => simp [Value.eq, Timestamp.eq, ContainsNaN, parts]
  | number x => simp [Value.eq, Double.eq_self_iff, ContainsNaN, parts]
  | array items ih =>
    rw [Value.eq, eqItems_iff, List.forall₂_same, containsNaN_array, not_exists]
    simp only [not_and]
    exact forall₂_congr ih
  | map fields ih =>
    rw [Value.eq, eqFields_iff, List.forall₂_same, containsNaN_map, not_exists]
    simp only [not_and, EqField, true_and]
    exact forall₂_congr ih

/-- A value that contains a NaN is equal to nothing. -/
lemma eq_of_containsNaN (h : a.ContainsNaN) (b : Value) : b.eq a = false := by
  rw [Bool.eq_false_iff]
  intro hba
  exact (eq_self_iff a).mp (eq_trans ((eq_swap b a).mp hba) hba) h

end Value

end Formula
