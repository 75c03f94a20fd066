import Formula.Proofs.Builtin.Calls
import Formula.Proofs.Double.Basic

set_option autoImplicit false

/-!
# The smallest and the greatest of given numbers

Both extrema are looked for from the infinity at the other end on, which gives way to every other number.
NaNs are passed over, so of NaNs alone that infinity is what is left.

## Main definitions

* `Formula.Double.before`, `Formula.Double.extremum` — the order towards one of the ends, and the one
  of two numbers that stands first in it.

## Main results

* `Formula.Double.foldl_extremum` — what stands first among numbers and a first guess.
* `Formula.Builtin.Numbers.extrema` — `min` and `max` give one of the numbers, unless all are NaNs, and
  no number is beyond it.
* `Formula.Builtin.Numbers.extrema_of_nan` — NaNs alone have an infinity for their extremum.
-/

namespace Formula

namespace Double

variable {greatest : Bool} {x y z : Double} {xs : List Double}

/-! ## The order towards an end -/

/-- Whether a number is less than another, or greater if the greatest number is looked for. -/
def before (greatest : Bool) (x y : Double) : Bool :=
  if greatest then y.lt x else x.lt y

/-- The number that stands first of two. A NaN gives way to the other one, and of equal numbers the left
one stays. -/
def extremum (greatest : Bool) (x y : Double) : Double :=
  if x.isNaN then y else if before greatest y x then y else x

/-- The smaller one of two numbers is an extremum. -/
lemma min_eq_extremum : Double.min = extremum false :=
  rfl

/-- The greater one of two numbers is an extremum. -/
lemma max_eq_extremum : Double.max = extremum true :=
  rfl

/-- What the order towards an end compares. -/
def endKey (greatest : Bool) (x : Double) : Int :=
  if greatest then -x.key else x.key

/-- A number is less than another if neither is a NaN and their keys say so. -/
lemma lt_iff : x.lt y = true ↔ x.isNaN = false ∧ y.isNaN = false ∧ x.key < y.key := by
  unfold lt compare?
  cases x.isNaN <;> cases y.isNaN <;> simp [Int.compare_eq_lt]

/-- The same for the order towards either end. -/
lemma before_iff :
    before greatest x y = true ↔
      x.isNaN = false ∧ y.isNaN = false ∧ endKey greatest x < endKey greatest y := by
  unfold before endKey
  cases greatest with
  | false => exact lt_iff
  | true =>
    simp only [if_true, lt_iff, Int.neg_lt_neg_iff]
    exact and_left_comm

/-- What is not before a number that is not before a third one is not before that one either, unless the
number between them is a NaN. -/
lemma before_trans (hy : y.isNaN = false) (hxy : before greatest x y = false)
    (hyz : before greatest y z = false) : before greatest x z = false := by
  rw [Bool.eq_false_iff, ne_eq, before_iff] at hxy hyz ⊢
  intro h
  obtain ⟨hx, hz, hlt⟩ := h
  have hxy' : ¬endKey greatest x < endKey greatest y := fun hlt => hxy ⟨hx, hy, hlt⟩
  have hyz' : ¬endKey greatest y < endKey greatest z := fun hlt => hyz ⟨hy, hz, hlt⟩
  omega

/-- No number stands before itself. -/
lemma before_self (greatest : Bool) (x : Double) : before greatest x x = false := by
  rw [Bool.eq_false_iff, ne_eq, before_iff]
  exact fun h => Int.lt_irrefl _ h.2.2

/-! ## One step, and all -/

/-- The one of two numbers that stands first is one of them, and neither is before it. The first of them
is what was found so far, so it is no NaN.

**Proof sketch.** Either the second number is before the first, and is chosen, or it is not, and the
first one stays. -/
lemma extremum_spec (greatest : Bool) (hx : x.isNaN = false) (y : Double) :
    (extremum greatest x y = x ∨ extremum greatest x y = y) ∧
      (extremum greatest x y).isNaN = false ∧
      before greatest x (extremum greatest x y) = false ∧
      before greatest y (extremum greatest x y) = false := by
  unfold extremum
  rw [if_neg (by simp [hx])]
  by_cases h : before greatest y x = true
  · obtain ⟨hy, -, hlt⟩ := before_iff.mp h
    rw [if_pos h]
    refine ⟨.inr rfl, hy, ?_, before_self greatest y⟩
    rw [Bool.eq_false_iff, ne_eq, before_iff]
    exact fun hle => Int.lt_asymm hlt hle.2.2
  · rw [if_neg h]
    exact ⟨.inl rfl, hx, before_self greatest x, Bool.eq_false_iff.mpr h⟩

/-- What stands first among a first guess and numbers is one of them, and none of them is before it.

**Proof sketch.** Induction on the numbers. The better one of the guess and the next number is the guess
for the rest, and none of the two is before it. -/
lemma foldl_extremum (greatest : Bool) (hx : x.isNaN = false) (xs : List Double) :
    (xs.foldl (extremum greatest) x = x ∨ xs.foldl (extremum greatest) x ∈ xs) ∧
      (xs.foldl (extremum greatest) x).isNaN = false ∧
      ∀ y ∈ x :: xs, before greatest y (xs.foldl (extremum greatest) x) = false := by
  induction xs generalizing x with
  | nil => simpa using ⟨hx, before_self greatest x⟩
  | cons y rest ih =>
    obtain ⟨hchosen, hnan, hnotx, hnoty⟩ := extremum_spec greatest hx y
    obtain ⟨hmem, hresult, hnone⟩ := ih hnan
    rw [List.foldl_cons]
    obtain ⟨hfirst, hrest⟩ := List.forall_mem_cons.mp hnone
    refine ⟨?_, hresult, ?_⟩
    · rcases hmem with heq | hmem
      · rw [heq]
        refine hchosen.imp_right fun h => ?_
        rw [h]
        exact List.mem_cons_self
      · exact .inr (List.mem_cons_of_mem y hmem)
    · -- Neither the guess nor the next number is before the better one of them.
      intro z hz
      rcases List.mem_cons.mp hz with rfl | hz
      · exact before_trans hnan hnotx hfirst
      · rcases List.mem_cons.mp hz with rfl | hz
        · exact before_trans hnan hnoty hfirst
        · exact hrest z hz

/-! ## From an infinity on -/

/-- The infinity at the other end has the greatest key. -/
lemma endKey_infinity (greatest : Bool) :
    endKey greatest (infinity greatest) = infiniteMagnitude := by
  cases greatest <;> decide

/-- An infinity is not a NaN. -/
lemma isNaN_infinity (negative : Bool) : (infinity negative).isNaN = false := by
  cases negative <;> decide

/-- The infinity at the other end is behind all numbers.

**Proof sketch.** A number that is not before it has its key at least, and so its sign and its
magnitude. -/
lemma eq_infinity_of_not_before (hx : x.isNaN = false)
    (h : before greatest x (infinity greatest) = false) : x = infinity greatest := by
  have hle : x.magnitude ≤ infiniteMagnitude := Nat.not_lt.mp (of_decide_eq_false hx)
  have hpos : 0 < infiniteMagnitude := by decide
  rw [Bool.eq_false_iff, ne_eq, before_iff, endKey_infinity] at h
  have hkey : (infiniteMagnitude : Int) ≤ endKey greatest x := by
    by_contra hlt
    exact h ⟨hx, isNaN_infinity greatest, Int.not_le.mp hlt⟩
  -- A magnitude of the infinity at least, with a sign that puts it at the other end.
  have hbits : x.isNegative = greatest ∧ x.magnitude = infiniteMagnitude := by
    unfold endKey key at hkey
    cases greatest <;> cases hsign : x.isNegative <;> simp [hsign] at hkey ⊢ <;> omega
  rw [infinity, ← hbits.1, ← hbits.2, ofMagnitude_magnitude]

/-- From the infinity at the other end on, what stands first among numbers is one of them, provided one
of them is not a NaN.

**Proof sketch.** If no number were chosen, the result would be the infinity at the other end, and then
the number that is no NaN has to be this infinity. -/
lemma foldl_infinity_mem (h : ∃ x ∈ xs, x.isNaN = false) :
    xs.foldl (extremum greatest) (infinity greatest) ∈ xs := by
  obtain ⟨x, hmem, hx⟩ := h
  obtain ⟨heq | hchosen, -, hnone⟩ := foldl_extremum greatest (isNaN_infinity greatest) xs
  · have hnot := hnone x (List.mem_cons_of_mem _ hmem)
    rw [heq] at hnot ⊢
    exact eq_infinity_of_not_before hx hnot ▸ hmem
  · exact hchosen

/-- NaNs leave the infinity as it is. -/
lemma foldl_infinity_of_isNaN (h : ∀ x ∈ xs, x.isNaN = true) :
    xs.foldl (extremum greatest) (infinity greatest) = infinity greatest := by
  obtain ⟨heq | hchosen, hresult, -⟩ := foldl_extremum greatest (isNaN_infinity greatest) xs
  · exact heq
  · rw [h _ hchosen] at hresult
    cases hresult

end Double

namespace Builtin.Numbers

variable {items : List Value} {xs : List Double}

/-- The numbers are those of the arguments, or of the items of an array that is the only argument.

**Proof sketch.** Each item is read as its number, whether they are the arguments or the items of the
only argument. A single argument that is an array is not a number, so the two forms are told apart. -/
lemma numbers_of_number? (name : String) (hne : items ≠ [])
    (h : items.map Value.number? = xs.map some) :
    numbers name items = .ok xs ∧ numbers name [.array items] = .ok xs := by
  have hnumbers : List.Forall₂ (fun v x => v.number? = some x) items xs := by
    rwa [← List.forall₂_eq_eq_eq, List.forall₂_map_left_iff, List.forall₂_map_right_iff] at h
  have hmapM : (items.mapM fun v => v.toNumber name) = .ok xs :=
    mapM_eq_ok_iff.mpr (hnumbers.imp fun v x hv => by rw [Value.toNumber, hv])
  have hempty : items.isEmpty = false := by simpa using hne
  constructor
  · -- An array among the arguments would be no number.
    have harray : ∀ others, items ≠ [.array others] := by
      rintro others rfl
      cases xs <;> simp [Value.number?] at h
    unfold numbers
    split
    next => exact absurd rfl (harray _)
    simp only [hempty, Bool.false_eq_true, if_false, hmapM]
  · simp only [numbers, hempty, Bool.false_eq_true, if_false, hmapM]

/-- **The functions `min` and `max` give one of the numbers, unless all are NaNs.** Of one or more values that
are taken for numbers, given as arguments or as the items of an array:

1. No number is less than the result of `min`, nor greater than that of `max`, and neither is a NaN.
2. If one of the numbers is not a NaN, both results are among the numbers, with the same bits.
3. If all are NaNs, the result of `min` is the positive infinity, and that of `max` the negative one.

**Proof sketch.** The infinity from which a search starts is replaced by every number that is before it.
What is left of it at the end is behind all numbers, so it is equal to all of them. -/
theorem extrema (hne : items ≠ []) (h : items.map Value.number? = xs.map some) :
    ∃ least greatest : Double,
      (Gives "min" items (.ok (.number least)) ∧ Gives "min" [.array items] (.ok (.number least))) ∧
      (Gives "max" items (.ok (.number greatest)) ∧
        Gives "max" [.array items] (.ok (.number greatest))) ∧
      (∀ x ∈ xs, x.lt least = false ∧ greatest.lt x = false) ∧
      (least.isNaN = false ∧ greatest.isNaN = false) ∧
      ((∃ x ∈ xs, x.isNaN = false) → least ∈ xs ∧ greatest ∈ xs) ∧
      ((∀ x ∈ xs, x.isNaN = true) → least = .infinity false ∧ greatest = .infinity true) := by
  have hcount : (Arity.range 1 none).accepts items.length = true := by
    have hpos : 1 ≤ items.length := List.length_pos_iff.mpr hne
    simpa [Arity.accepts] using hpos
  obtain ⟨hminArgs, hminArray⟩ := numbers_of_number? "min" hne h
  obtain ⟨hmaxArgs, hmaxArray⟩ := numbers_of_number? "max" hne h
  have hmin (args : List Value) (hargs : numbers "min" args = .ok xs) :
      Numbers.min args = .ok (.number (xs.foldl (Double.extremum false) (.infinity false))) := by
    rw [Numbers.min, hargs, Double.min_eq_extremum]
    rfl
  have hmax (args : List Value) (hargs : numbers "max" args = .ok xs) :
      Numbers.max args = .ok (.number (xs.foldl (Double.extremum true) (.infinity true))) := by
    rw [Numbers.max, hargs, Double.max_eq_extremum]
    rfl
  -- The search begins at the infinity on the far side, which no number stands behind.
  obtain ⟨-, hleast, hnoneBelow⟩ :=
    Double.foldl_extremum false (Double.isNaN_infinity false) xs
  obtain ⟨-, hgreatest, hnoneAbove⟩ :=
    Double.foldl_extremum true (Double.isNaN_infinity true) xs
  refine ⟨_, _, ⟨gives_plain rfl hcount (hmin _ hminArgs), gives_plain rfl rfl (hmin _ hminArray)⟩,
    ⟨gives_plain rfl hcount (hmax _ hmaxArgs), gives_plain rfl rfl (hmax _ hmaxArray)⟩,
    fun x hx => ⟨hnoneBelow x (List.mem_cons_of_mem _ hx), hnoneAbove x (List.mem_cons_of_mem _ hx)⟩,
    ⟨hleast, hgreatest⟩,
    fun hsome => ⟨Double.foldl_infinity_mem hsome, Double.foldl_infinity_mem hsome⟩,
    fun hall => ⟨Double.foldl_infinity_of_isNaN hall, Double.foldl_infinity_of_isNaN hall⟩⟩

/-- A NaN, a text, a boolean, the negative zero, and an infinity. -/
theorem extrema_of_mixed :
    let items : List Value := [.number .invalid, .string " -2.5", .bool true, .number (.zero true),
      .number (.infinity false)]
    let xs : List Double := [.invalid, ⟨0xc004000000000000⟩, .ofNat 1, .zero true, .infinity false]
    items ≠ [] ∧ items.map Value.number? = xs.map some ∧ ∃ least greatest : Double,
      Gives "min" items (.ok (.number least)) ∧ Gives "max" [.array items] (.ok (.number greatest)) ∧
      least ∈ xs ∧ greatest ∈ xs ∧ ∀ x ∈ xs, x.lt least = false ∧ greatest.lt x = false := by
  intro items xs
  have hne : items ≠ [] := List.cons_ne_nil _ _
  have hxs : items.map Value.number? = xs.map some := by decide +kernel
  obtain ⟨least, greatest, hmin, hmax, hbeyond, -, hmem, -⟩ := extrema hne hxs
  obtain ⟨hleast, hgreatest⟩ := hmem ⟨.infinity false, by decide, by decide⟩
  exact ⟨hne, hxs, least, greatest, hmin.1, hmax.2, hleast, hgreatest, hbeyond⟩

/-- The extremum is not always one of the numbers: a NaN alone has an infinity for its smallest number, and
the other infinity for its greatest. -/
theorem extrema_of_nan :
    (Value.number .nan).number? = some .nan ∧
    Gives "min" [.number .nan] (.ok (.number (.infinity false))) ∧
    Gives "max" [.number .nan] (.ok (.number (.infinity true))) ∧
    ¬∃ least, Gives "min" [.number .nan] (.ok (.number least)) ∧
      ∃ x ∈ [Double.nan], least.eq x = true ∨ least.isNaN = true ∧ x.isNaN = true := by
  have hmin : Gives "min" [.number .nan] (.ok (.number (.infinity false))) :=
    gives_plain rfl rfl rfl
  have hmax : Gives "max" [.number .nan] (.ok (.number (.infinity true))) :=
    gives_plain rfl rfl rfl
  refine ⟨rfl, hmin, hmax, ?_⟩
  rintro ⟨least, hleast, hmem⟩
  obtain rfl : .infinity false = least := Value.number.inj (Except.ok.inj (hmin.unique hleast))
  revert hmem
  decide

end Builtin.Numbers

end Formula
