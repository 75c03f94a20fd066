import Formula.Proofs.Builtin.Entries
import Formula.Proofs.Builtin.Positions
import Formula.Proofs.Value.Bits
import Formula.Proofs.Value.Equality
import Mathlib.Data.List.FinRange

set_option autoImplicit false

/-!
# Members of arrays

Whether a value is in an array is asked by an operator and by four functions, which go through the array in
their own ways: from items to values or from values to items, up to the first place or to the end. They agree,
although a value with a NaN in it is not even equal to itself.

## Main definitions

* `Formula.Builtin.Lists.Answers` — all that looks for a value in an array has an answer.
* `Formula.Builtin.Lists.places` — the places at which items are equal to some values.

## Main results

* `Formula.Value.order_ofInt` — integers are compared as numbers as they are compared as integers.
* `Formula.Builtin.Lists.countP_memberOf` — items that are found are counted by their places.
* `Formula.Builtin.Lists.membership_agrees` — all tests of membership agree.
-/

namespace Formula

/-! ## Counts and positions as numbers -/

namespace Value

variable {symbol : String} {holds : Ordering → Bool} {i j : Int} {m n : Nat}

/-- A natural number as a value is the integer as a value. -/
lemma ofNat_eq_ofInt (n : Nat) : ofNat n = ofInt n := by
  rw [ofNat, ofInt, Double.ofNat, Double.ofInt, Int.natAbs_natCast, decide_eq_false (by omega)]

/-- Integers below `2 ^ 53` are compared as numbers as they are compared as integers.

**Proof sketch.** Such integers are exact as numbers, and numbers that are no NaN are compared by their
values. -/
lemma order_ofInt (hi : i.natAbs < 2 ^ 53) (hj : j.natAbs < 2 ^ 53) :
    (ofInt i).order symbol holds (ofInt j) = .ok (.bool (holds (compare i j))) := by
  have hexact {k : Int} (hk : k.natAbs < 2 ^ 53) :
      (Double.ofInt k).isNaN = false ∧ (Double.ofInt k).value = k := by
    obtain ⟨hfinite, hvalue⟩ := Double.value_ofInt (k := 0) hk (by decide)
    rw [pow_zero, mul_one] at hfinite hvalue
    exact ⟨Double.not_isNaN_of_isFinite hfinite, by simpa using hvalue⟩
  obtain ⟨hinan, hivalue⟩ := hexact hi
  obtain ⟨hjnan, hjvalue⟩ := hexact hj
  refine order_eq symbol holds ((Double.compare?_of_not_isNaN hinan hjnan).trans ?_)
  have hlt := Double.key_lt_key_iff (x := .ofInt i) (y := .ofInt j)
  have hgt := Double.key_lt_key_iff (x := .ofInt j) (y := .ofInt i)
  rw [hivalue, hjvalue, Int.cast_lt] at hlt hgt
  rw [← cmp_eq_compare, ← cmp_eq_compare]
  unfold cmp cmpUsing
  simp only [hlt, hgt]

/-- The operator `>=` compares integers below `2 ^ 53` as integers. -/
lemma ge_ofInt (hi : i.natAbs < 2 ^ 53) (hj : j.natAbs < 2 ^ 53) :
    BinaryOperator.ge.apply (ofInt i) (ofInt j) = .ok (.bool (decide (j ≤ i))) := by
  have hge : (compare i j).isGE = decide (j ≤ i) := by
    rw [Bool.eq_iff_iff, Std.isGE_compare, decide_eq_true_iff]
  rw [← hge]
  exact order_ofInt hi hj

/-- The operator `>` compares integers below `2 ^ 53` as integers. -/
lemma gt_ofInt (hi : i.natAbs < 2 ^ 53) (hj : j.natAbs < 2 ^ 53) :
    BinaryOperator.gt.apply (ofInt i) (ofInt j) = .ok (.bool (decide (j < i))) := by
  have hgt : (compare i j).isGT = decide (j < i) := by
    rw [Bool.eq_iff_iff, Ordering.isGT_iff_eq_gt, compare_gt_iff_gt, decide_eq_true_iff]
  rw [← hgt]
  exact order_ofInt hi hj

/-- The operator `>=` compares natural numbers below `2 ^ 53` as natural numbers. -/
lemma ge_ofNat (hm : m < 2 ^ 53) (hn : n < 2 ^ 53) :
    BinaryOperator.ge.apply (ofNat m) (ofNat n) = .ok (.bool (decide (n ≤ m))) := by
  rw [ofNat_eq_ofInt, ofNat_eq_ofInt, ge_ofInt (by omega) (by omega)]
  simp only [Nat.cast_le]

/-- The operator `>` compares natural numbers below `2 ^ 53` as natural numbers. -/
lemma gt_ofNat (hm : m < 2 ^ 53) (hn : n < 2 ^ 53) :
    BinaryOperator.gt.apply (ofNat m) (ofNat n) = .ok (.bool (decide (n < m))) := by
  rw [ofNat_eq_ofInt, ofNat_eq_ofInt, gt_ofInt (by omega) (by omega)]
  simp only [Nat.cast_lt]

end Value

namespace Builtin.Lists

variable {items needles : List Value} {v : Value} {b : Bool}

/-- All that looks for a value in an array has this answer. -/
structure Answers (items : List Value) (v : Value) (b : Bool) : Prop where
  isIn : BinaryOperator.isIn.apply v (.array items) = .ok (.bool b)
  has : Gives "has" [.array items, v] (.ok (.bool b))
  hasAll : Gives "hasAll" [.array items, v] (.ok (.bool b))
  find : ∃ position, Gives "find" [.array items, v] (.ok position) ∧
    BinaryOperator.ge.apply position (.ofNat 0) = .ok (.bool b)
  count : ∃ number, Gives "count" [.array items, v] (.ok number) ∧
    BinaryOperator.gt.apply number (.ofNat 0) = .ok (.bool b)

/-- The places of an array at which an item is equal to one of some values. -/
def places (items needles : List Value) : List (Fin items.length) :=
  (List.finRange items.length).filter fun i => ∃ needle ∈ needles, items[i].eq needle = true

/-! ## What is given -/

/-- The function `has` tells whether some of its further arguments is an item. -/
lemma gives_has (h : needles ≠ []) (items : List Value) :
    Gives "has" (.array items :: needles)
      (.ok (.bool (needles.any fun needle => needle.memberOf items))) :=
  gives_plain rfl (accepts_cons _ h le_rfl) rfl

/-- The function `hasAll` tells whether each of its further arguments is an item. -/
lemma gives_hasAll (h : needles ≠ []) (items : List Value) :
    Gives "hasAll" (.array items :: needles)
      (.ok (.bool (needles.all fun needle => needle.memberOf items))) := by
  refine gives_watching rfl (accepts_cons _ h le_rfl) ?_
  show (searchAll items needles >>= fun b => pure (Value.bool b)).result = _
  rw [Looking.result_bind, result_searchAll]
  rfl

/-- Without further arguments the function `count` gives the number of items. -/
lemma gives_count (items : List Value) :
    Gives "count" [.array items] (.ok (.ofNat items.length)) :=
  gives_watching rfl rfl rfl

/-- Both sides of the equality may be exchanged, so each place counts at which an item is found.

**Proof sketch.** The items are those at the places of the array, so the items with a property are
counted by their places. -/
lemma countP_memberOf (items needles : List Value) :
    (items.countP fun item => item.memberOf needles) = (places items needles).length := by
  have hitems : items = (List.finRange items.length).map fun i => items[i] :=
    (List.map_get_finRange items).symm
  rw [places, ← List.countP_eq_length_filter]
  conv_lhs => rw [hitems]
  rw [List.countP_map]
  refine List.countP_congr fun i _ => ?_
  rw [Function.comp, Value.memberOf, List.any_eq_true, decide_eq_true_iff]
  exact exists_congr fun needle => and_congr_right fun _ => Value.eq_swap needle _

/-- With further arguments the function `count` gives the number of places at which one of them stands.

**Proof sketch.** The looks at the context do not change the count, which is then one of places
(`countP_memberOf`). -/
lemma gives_count_needles (h : needles ≠ []) (items : List Value) :
    Gives "count" (.array items :: needles) (.ok (.ofNat (places items needles).length)) := by
  refine gives_watching rfl (accepts_cons _ h one_le_two) ?_
  obtain ⟨needle, rest, rfl⟩ := List.exists_cons_of_ne_nil h
  show (Looking.lookAtEach items >>= fun _ =>
    pure (Value.ofNat (items.countP fun item => item.memberOf (needle :: rest)))).result = _
  rw [Looking.result_afterLooks, ← countP_memberOf]
  rfl

/-- The function `find` gives the first place at which a value stands, or `-1`. -/
lemma find_eq (items : List Value) (v : Value) : Lists.find [.array items, v] =
    .ok ((items.findIdx? fun item => item.eq v).elim (.ofInt (-1)) .ofNat) := by
  unfold Lists.find
  simp only [Argument.array, Argument.any, List.getElem?_cons_zero, List.getElem?_cons_succ, bind,
    Except.bind, pure, Except.pure]
  cases items.findIdx? fun item => item.eq v <;> rfl

/-- The first item that is equal to a value is found, and otherwise `-1` is given.

**Proof sketch.** Both cases are what is known of the first place with a property. -/
lemma gives_find (items : List Value) (v : Value) :
    (∃ i item, items[i]? = some item ∧ item.eq v = true ∧
      (∀ j w, j < i → items[j]? = some w → w.eq v = false) ∧
      Gives "find" [.array items, v] (.ok (.ofNat i))) ∨
    (∀ item ∈ items, item.eq v = false) ∧ Gives "find" [.array items, v] (.ok (.ofInt (-1))) := by
  have hgives : Gives "find" [.array items, v] _ := gives_plain rfl rfl (find_eq items v)
  cases hfind : items.findIdx? fun item => item.eq v with
  | none =>
    rw [hfind] at hgives
    exact .inr ⟨List.findIdx?_eq_none_iff.mp hfind, hgives⟩
  | some i =>
    rw [hfind] at hgives
    obtain ⟨hi, heq, hbefore⟩ := List.findIdx?_eq_some_iff_getElem.mp hfind
    refine .inl ⟨i, items[i], List.getElem?_eq_getElem hi, heq, ?_, hgives⟩
    intro j w hj hw
    obtain ⟨hlt, rfl⟩ := List.getElem?_eq_some_iff.mp hw
    exact Bool.eq_false_iff.mpr (hbefore j hj)

/-- A value is in an array if some item is equal to it. -/
lemma memberOf_iff : v.memberOf items = true ↔ ∃ item ∈ items, item.eq v = true :=
  List.any_eq_true

/-- An item is equal to a value if it is so at some place. -/
lemma places_pos_iff : 0 < (places items [v]).length ↔ v.memberOf items = true := by
  rw [← countP_memberOf, List.countP_pos_iff, memberOf_iff]
  refine exists_congr fun item => and_congr_right fun _ => ?_
  rw [Value.memberOf, List.any_cons, List.any_nil, Bool.or_false, Value.eq_swap]

/-- There are no more places than items. -/
lemma length_places_le (items needles : List Value) : (places items needles).length ≤ items.length := by
  rw [← countP_memberOf]
  exact List.countP_le_length

/-- More places are found for more values. -/
lemma length_places_singleton_le (h : v ∈ needles) :
    (places items [v]).length ≤ (places items needles).length := by
  refine (List.monotone_filter_right _ fun i hi => ?_).length_le
  obtain ⟨needle, hneedle, heq⟩ := of_decide_eq_true hi
  obtain rfl := List.mem_singleton.mp hneedle
  exact decide_eq_true ⟨needle, h, heq⟩

/-- All that looks for a value in an array has one answer.

**Proof sketch.** The answers of `in`, `has` and `hasAll` are the same search. What `find` gives is a
place, which is not negative, or `-1`. What `count` gives is a number of places, which is positive if
there is one. Both are below `2 ^ 53`, so they are compared as integers. -/
lemma answers (hlen : items.length < 2 ^ 53) (v : Value) : Answers items v (v.memberOf items) where
  isIn := rfl
  has := by
    have h := gives_has (List.cons_ne_nil v []) items
    rwa [List.any_cons, List.any_nil, Bool.or_false] at h
  hasAll := by
    have h := gives_hasAll (List.cons_ne_nil v []) items
    rwa [List.all_cons, List.all_nil, Bool.and_true] at h
  find := by
    rcases gives_find items v with ⟨i, item, hitem, heq, -, hgives⟩ | ⟨hnone, hgives⟩
    · have hmember : v.memberOf items = true := memberOf_iff.mpr ⟨item, List.mem_of_getElem? hitem, heq⟩
      obtain ⟨hi, -⟩ := List.getElem?_eq_some_iff.mp hitem
      refine ⟨_, hgives, ?_⟩
      rw [hmember, Value.ge_ofNat (by omega) (by decide), decide_eq_true (Nat.zero_le i)]
    · have hmember : v.memberOf items = false := List.any_eq_false.mpr fun item hitem =>
        Bool.eq_false_iff.mp (hnone item hitem)
      refine ⟨_, hgives, ?_⟩
      rw [hmember, Value.ofNat_eq_ofInt, Value.ge_ofInt (by decide) (by decide)]
      rfl
  count := by
    have hle := length_places_le items [v]
    refine ⟨_, gives_count_needles (List.cons_ne_nil v []) items, ?_⟩
    rw [Value.gt_ofNat (by omega) (by decide), Bool.eq_iff_iff.mpr (decide_eq_true_iff.trans places_pos_iff)]

/-- **All tests of membership agree.** For an array of fewer than `2 ^ 53` items:

1. For each value, `in`, `has`, `hasAll`, whether `find` gives a position, and whether `count` gives more than
   zero are one answer: whether an item is equal to the value. It is no if a NaN is in the value at any depth.
2. If it is yes then the item at the position that `find` gives is equal to the value, and none before it is.
3. For several values, `has` asks whether one of them is in the array, and `hasAll` whether all are.
4. For several values, `count` gives the number of places at which an item is equal to one of them, and counts
   each place once. This is at most the number that `count` gives for the array alone, and at least the number
   for each of the values.

**Proof sketch.** Equality is symmetric, so it does not matter which way round items and values are compared. An
item is equal to a value if it is so at some place, of which `find` gives the first and `count` the number; the
places for one of the values are among the places for all. -/
theorem membership_agrees (hlen : items.length < 2 ^ 53) :
    (∀ v, ∃ b, Answers items v b ∧
      (b = true ↔ ∃ item ∈ items, BinaryOperator.eq.apply item v = .ok (.bool true)) ∧
      (v.ContainsNaN → b = false) ∧
      (b = true → ∃ (i : Nat) (item : Value), Gives "find" [.array items, v] (.ok (.ofNat i)) ∧
        (Value.array items).element (.ofNat i) = .ok item ∧
        BinaryOperator.eq.apply item v = .ok (.bool true) ∧
        ∀ j < i, ∃ earlier, (Value.array items).element (.ofNat j) = .ok earlier ∧
          BinaryOperator.eq.apply earlier v = .ok (.bool false))) ∧
    ∀ needles : List Value, needles ≠ [] →
      (∃ any, Gives "has" (.array items :: needles) (.ok (.bool any)) ∧
        (any = true ↔ ∃ v ∈ needles, Gives "has" [.array items, v] (.ok (.bool true)))) ∧
      (∃ all, Gives "hasAll" (.array items :: needles) (.ok (.bool all)) ∧
        (all = true ↔ ∀ v ∈ needles, Gives "has" [.array items, v] (.ok (.bool true)))) ∧
      ∃ number, Gives "count" (.array items :: needles) (.ok number) ∧
        number = .ofNat (places items needles).length ∧
        (∃ total, Gives "count" [.array items] (.ok total) ∧
          BinaryOperator.ge.apply total number = .ok (.bool true)) ∧
        ∀ v ∈ needles, ∃ single, Gives "count" [.array items, v] (.ok single) ∧
          BinaryOperator.ge.apply number single = .ok (.bool true) := by
  have hasOne (v : Value) :
      Gives "has" [.array items, v] (.ok (.bool true)) ↔ v.memberOf items = true :=
    gives_true_iff (answers hlen v).has
  refine ⟨fun v => ⟨v.memberOf items, answers hlen v, ?equal, ?nan, ?first⟩, fun needles hneedles =>
    ⟨⟨_, gives_has hneedles items, ?any⟩, ⟨_, gives_hasAll hneedles items, ?all⟩,
      _, gives_count_needles hneedles items, rfl, ⟨_, gives_count items, ?total⟩, ?single⟩⟩
  case equal =>
    rw [memberOf_iff]
    simp [BinaryOperator.apply]
  case nan =>
    intro hnan
    exact List.any_eq_false.mpr fun item _ => Bool.eq_false_iff.mp (Value.eq_of_containsNaN hnan item)
  case first =>
    intro hmember
    obtain ⟨item, hitem, heq⟩ := memberOf_iff.mp hmember
    rcases gives_find items v with ⟨i, found, hfound, hequal, hbefore, hgives⟩ | ⟨hnone, -⟩
    · obtain ⟨hi, -⟩ := List.getElem?_eq_some_iff.mp hfound
      -- Positions are small enough to be numbers, and are read back as they are.
      have position (j : Nat) (hj : j < items.length) : (Value.ofNat j).position = .ok j := by
        rw [Value.ofNat_eq_ofInt]
        exact Value.position_ofInt (by omega)
      refine ⟨i, found, hgives, Value.element_array_of_getElem? (position i hi) hfound,
        congrArg (Except.ok ∘ Value.bool) hequal, fun j hj => ?_⟩
      have hearlier : items[j]? = some items[j] := List.getElem?_eq_getElem (hj.trans hi)
      exact ⟨items[j], Value.element_array_of_getElem? (position j (hj.trans hi)) hearlier,
        congrArg (Except.ok ∘ Value.bool) (hbefore j _ hj hearlier)⟩
    · rw [hnone item hitem] at heq
      contradiction
  case any =>
    simp only [List.any_eq_true, hasOne]
  case all =>
    simp only [List.all_eq_true, hasOne]
  case total =>
    have hle := length_places_le items needles
    rw [Value.ge_ofNat hlen (by omega), decide_eq_true hle]
  case single =>
    intro v hv
    have hle := length_places_le items needles
    have hsingle : (places items [v]).length ≤ _ := length_places_singleton_le hv
    refine ⟨_, gives_count_needles (List.cons_ne_nil v []) items, ?_⟩
    rw [Value.ge_ofNat (by omega) (by omega), decide_eq_true hsingle]

/-- A value that is named twice and stands twice, beside a NaN inside an array.

**Proof sketch.** The general theorem gives the answers, and what is left is to evaluate which values
are found. -/
theorem membership_agrees_repeated :
    let nan : Value := .number Double.nan
    let items : List Value := [.array [nan], .string "a", .null, .string "a"]
    let needles : List Value := [.string "a", .array [nan], .string "a"]
    items.length < 2 ^ 53 ∧ Answers items (.string "a") true ∧ Answers items (.array [nan]) false ∧
    Gives "has" (.array items :: needles) (.ok (.bool true)) ∧
    Gives "hasAll" (.array items :: needles) (.ok (.bool false)) ∧
    Gives "count" (.array items :: needles) (.ok (.ofNat 2)) := by
  intro nan items needles
  have hlen : items.length < 2 ^ 53 := by decide
  obtain ⟨hone, hmany⟩ := membership_agrees hlen
  obtain ⟨found, hfound, hequal, -, -⟩ := hone (.string "a")
  obtain ⟨missed, hmissed, -, hnan, -⟩ := hone (.array [nan])
  obtain ⟨⟨any, hany, hanyIff⟩, ⟨all, hall, hallIff⟩, number, hnumber, hcount, -⟩ :=
    hmany needles (List.cons_ne_nil _ _)
  have hfoundTrue : found = true := hequal.mpr ⟨.string "a", by simp [items], rfl⟩
  have hmissedFalse : missed = false := hnan (Value.containsNaN_array.mpr
    ⟨nan, List.mem_singleton_self nan, Double.nan, by simp [nan, Value.parts], rfl⟩)
  rw [hfoundTrue] at hfound
  rw [hmissedFalse] at hmissed
  have hanyTrue : any = true := hanyIff.mpr ⟨.string "a", by simp [needles], hfound.has⟩
  have hallFalse : all = false := by
    refine Bool.eq_false_iff.mpr fun h => ?_
    have hnone := hallIff.mp h (.array [nan]) (by simp [needles])
    simpa using hmissed.has.unique hnone
  have hplaces : (places items needles).length = 2 := by decide
  rw [hplaces] at hcount
  exact ⟨hlen, hfound, hmissed, hanyTrue ▸ hany, hallFalse ▸ hall, hcount ▸ hnumber⟩

end Builtin.Lists

end Formula
