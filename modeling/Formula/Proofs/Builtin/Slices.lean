import Formula.Proofs.Builtin.Bounded
import Formula.Proofs.Builtin.Calls
import Formula.Proofs.Value.Bits

set_option autoImplicit false

/-!
# Slices of arrays

A slice holds the items between two places. Positions may be negative or lie outside the array; each of
them means a place of the array or its end.

## Main definitions

* `Formula.Builtin.Lists.resolved` — the place that a position means.
* `Formula.Builtin.Lists.itemsBetween` — the items between two places.
* `Formula.Bounded.slice?` — the items from one position up to another, computed within 64 bits.

## Main results

* `Formula.Builtin.Lists.slice_places` — what `slice` gives for all positions.
-/

namespace Formula

namespace Builtin.Lists

variable {items : List Value} {start stop : Value} {i j : Int}

/-! ## Places -/

/-- The place that a position means in a list of the given length. A negative one is counted from the end, and
one outside the list means the nearest end. -/
def resolved (length : Nat) (i : Int) : Int :=
  if i < 0 then max (length + i) 0 else min i length

/-- A position means the place that the function computes for it.

**Proof sketch.** Both say the same by cases on the sign of the position. -/
lemma resolved_eq (length : Nat) (i : Int) : resolved length i = place length i := by
  have hmin : Nat.min i.toNat length = min i.toNat length := rfl
  rw [resolved, place, hmin]
  by_cases hi : i < 0
  · rw [if_pos hi, if_pos hi, Int.ofNat_toNat]
  · rw [if_neg hi, if_neg hi]
    omega

/-- The place is not behind the end. -/
lemma resolved_le (length : Nat) (i : Int) : resolved length i ≤ length := by
  unfold resolved
  split <;> omega

/-- The length means the end. -/
lemma resolved_length (length : Nat) : resolved length length = length := by
  rw [resolved, if_neg (by omega), min_self]

/-- The items of a list at the places from one on up to another, in order. -/
def itemsBetween (items : List Value) (first last : Int) : List Value :=
  (items.zipIdx.filter fun entry => first ≤ entry.2 ∧ entry.2 < last).map Prod.fst

/-- The same for a list whose first item is at the place `n`.

**Proof sketch.** Induction on the list. Its first item is behind the last place, or between the two
places, or before the first one. -/
lemma map_filter_zipIdx (items : List Value) (n first last : Nat) :
    ((items.zipIdx n).filter fun entry =>
      ((first : Int) ≤ entry.2 ∧ (entry.2 : Int) < last)).map Prod.fst =
      (items.take (last - n)).drop (first - n) := by
  induction items generalizing n with
  | nil => simp
  | cons v items ih =>
    rw [List.zipIdx_cons, List.filter_cons]
    by_cases hlast : last ≤ n
    · rw [if_neg (by simp; omega), ih, show last - (n + 1) = 0 by omega, show last - n = 0 by omega,
        List.take_zero, List.take_zero, List.drop_nil, List.drop_nil]
    · obtain ⟨k, hk⟩ : ∃ k, last - n = k + 1 := ⟨last - n - 1, by omega⟩
      have hk' : last - (n + 1) = k := by omega
      by_cases hfirst : first ≤ n
      · rw [if_pos (by simp; omega), List.map_cons, ih, hk, hk', show first - (n + 1) = 0 by omega,
          show first - n = 0 by omega]
        rfl
      · rw [if_neg (by simp; omega), ih, hk, hk', show first - n = first - (n + 1) + 1 by omega]
        rfl

/-- The items between two places are what is left of the list up to the one without the list up to the
other. -/
lemma itemsBetween_eq (items : List Value) (first last : Nat) :
    itemsBetween items first last = (items.take last).drop first :=
  map_filter_zipIdx items 0 first last

/-! ## What is given -/

/-- Once the arguments are read, the items between the places are given. -/
lemma slice_eq {args : List Value} (hitems : Argument.array "slice" args 0 = .ok items)
    (hstart : Argument.integer "slice" args 1 = .ok i)
    (hstop : Argument.orElse Argument.integer items.length "slice" args 2 = .ok j) :
    slice args = .ok (.array (itemsBetween items (resolved items.length i)
      (resolved items.length j))) := by
  rw [resolved_eq, resolved_eq, itemsBetween_eq, slice, hitems]
  simp only [bind, Except.bind, hstart, hstop]
  rfl

/-- A slice goes up to the end if no other position is given. -/
lemma gives_slice (h : start.toInteger "slice" = .ok i) :
    Gives "slice" [.array items, start]
      (.ok (.array (itemsBetween items (resolved items.length i) items.length))) := by
  have hresult : slice [.array items, start] = .ok (.array (itemsBetween items
      (resolved items.length i) (resolved items.length items.length))) := slice_eq rfl h rfl
  rw [resolved_length] at hresult
  exact gives_plain rfl rfl hresult

/-- A slice goes from one position up to another. -/
lemma gives_slice_stop (h : start.toInteger "slice" = .ok i)
    (hstop : stop.toInteger "slice" = .ok j) :
    Gives "slice" [.array items, start, stop]
      (.ok (.array (itemsBetween items (resolved items.length i) (resolved items.length j)))) :=
  gives_plain rfl rfl (slice_eq rfl h hstop)

/-- The items before a place and those from it on are all items. -/
lemma itemsBetween_append (items : List Value) (i : Int) :
    itemsBetween items (resolved items.length 0) (resolved items.length i) ++
      itemsBetween items (resolved items.length i) items.length = items := by
  rw [resolved_eq, resolved_eq, itemsBetween_eq, itemsBetween_eq, List.take_length]
  exact List.take_append_drop _ items

end Builtin.Lists

/-! ## Within 64 bits -/

namespace Bounded

open Builtin.Lists

variable {items : List Value} {i j : Int}

/-- The place that a position means, with the sum that a negative one leads to. -/
def place? (length i : Int) : Option Int := do
  if i < 0 then return max (← word? (length + i)) 0 else return min i length

/-- The items from one position on up to another. Nothing is taken if they stand in another order. -/
def slice? (items : List Value) (start stop : Int) : Option (List Value) := do
  let length ← word? items.length
  let start ← place? length start
  let stop ← place? length stop
  if stop ≤ start then return []
  between? items (← count? start) (← count? stop)

/-- The sum of a length and a negative position is an integer of 64 bits.

**Proof sketch.** A length below `2 ^ 63` and a negative integer of 64 bits have such a sum. -/
lemma place?_eq {n : Nat} (hn : n < 2 ^ 63) (hi : -2 ^ 63 ≤ i) :
    place? n i = some (resolved n i) := by
  rw [place?, resolved]
  by_cases hneg : i < 0
  · rw [if_pos hneg, if_pos hneg, word?_of_mem ⟨by omega, by omega⟩]
    rfl
  · rw [if_neg hneg, if_neg hneg]
    rfl

/-- Places are not negative, and items are only taken between places in their order.

**Proof sketch.** Each step succeeds because its integer fits or is not negative. If the places are
crossed, both have no items. -/
lemma slice?_eq (h : items.length < 2 ^ 63) (hi : -2 ^ 63 ≤ i) (hj : -2 ^ 63 ≤ j) :
    slice? items i j = some (itemsBetween items
      (resolved items.length i) (resolved items.length j)) := by
  have hle := resolved_le items.length j
  rw [resolved_eq] at hle
  rw [slice?, word?_length h, some_bind, place?_eq h hi, some_bind, place?_eq h hj, some_bind,
    resolved_eq, resolved_eq, itemsBetween_eq]
  by_cases hcrossed : (place items.length j : Int) ≤ place items.length i
  · rw [if_pos hcrossed, List.drop_eq_nil_of_le (by rw [List.length_take]; omega)]
    rfl
  · rw [if_neg hcrossed, count?_of_nonneg (by omega), some_bind, count?_of_nonneg (by omega),
      some_bind, between?_of_le (by omega) (by omega)]
    rfl

end Bounded

namespace Builtin.Lists

variable {start stop : Value} {i j : Int}

/-- **A slice holds the items between the places that its positions mean.** For every array and all values
that are taken for integers, as positions:

1. `slice` gives the items at the places from the first position on up to the second one, or all from
   there on if there is no second one, in order. A negative position counts from the end, and one that
   lies outside the array means its nearest end.
2. What it gives up to a position and from this position on makes up the array.
3. If the length of the array is an integer of 64 bits, so are all sums on the way, and items are only
   taken from places of the array.

**Proof sketch.** The positions mean places of the array or its end, so the items between them are what is
left of the array up to the second place when the items before the first one are dropped. -/
theorem slice_places (items : List Value) (hi : start.toInteger "slice" = .ok i)
    (hj : stop.toInteger "slice" = .ok j) :
    Gives "slice" [.array items, start, stop]
      (.ok (.array (itemsBetween items (resolved items.length i) (resolved items.length j)))) ∧
    Gives "slice" [.array items, start]
      (.ok (.array (itemsBetween items (resolved items.length i) items.length))) ∧
    (∃ front back : List Value,
      Gives "slice" [.array items, .ofInt 0, start] (.ok (.array front)) ∧
      Gives "slice" [.array items, start] (.ok (.array back)) ∧
      BinaryOperator.add.apply (.array front) (.array back) = .ok (.array items)) ∧
    (items.length < 2 ^ 63 →
      Bounded.slice? items i j =
        some (itemsBetween items (resolved items.length i) (resolved items.length j)) ∧
      Bounded.slice? items i items.length =
        some (itemsBetween items (resolved items.length i) items.length)) := by
  refine ⟨gives_slice_stop hi hj, gives_slice hi, ?whole, fun h => ⟨?stop, ?rest⟩⟩
  case whole =>
    have hzero : (Value.ofInt 0).toInteger "slice" = .ok 0 := Value.toInteger_ofInt (by decide)
    refine ⟨_, _, gives_slice_stop hzero hi, gives_slice hi, ?_⟩
    show Except.ok (Value.array (_ ++ _)) = _
    rw [itemsBetween_append]
  case stop =>
    exact Bounded.slice?_eq h (Value.bounds_of_toInteger hi).1 (Value.bounds_of_toInteger hj).1
  case rest =>
    have hrest := Bounded.slice?_eq h (Value.bounds_of_toInteger hi).1 (j := items.length) (by omega)
    rwa [resolved_length] at hrest

/-- The extremes among the integers of 64 bits: the whole array lies between them. -/
theorem slice_places_extremes :
    let items : List Value := [.bool true, .null, .string "é"]
    let least : Value := .number (.ofInt (-2 ^ 63))
    let greatest : Value := .number (.ofNat (2 ^ 63))
    (least.toInteger "slice" = .ok (-2 ^ 63) ∧ greatest.toInteger "slice" = .ok (2 ^ 63 - 1)) ∧
    Gives "slice" [.array items, least, greatest] (.ok (.array items)) ∧
    Gives "slice" [.array items, least] (.ok (.array items)) := by
  intro items least greatest
  have hleast : least.toInteger "slice" = .ok (-2 ^ 63) := by decide +kernel
  have hgreatest : greatest.toInteger "slice" = .ok (2 ^ 63 - 1) := by decide +kernel
  obtain ⟨hboth, hrest, -⟩ := slice_places items hleast hgreatest
  exact ⟨⟨hleast, hgreatest⟩, hboth, hrest⟩

end Builtin.Lists

end Formula
