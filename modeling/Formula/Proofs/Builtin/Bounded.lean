import Formula.Proofs.Value.Integer

set_option autoImplicit false

/-!
# Computing within 64 bits

Lengths and positions are signed integers of 64 bits, numbers of items are not negative, and a list has
items between two places only if these are places of it, in this order. A step of a computation that leaves
these bounds has no result. So a computation that is written with such steps, and has a result, keeps
within the bounds.

## Main definitions

* `Formula.Bounded.word?`, `Formula.Bounded.count?`, `Formula.Bounded.product?`, `Formula.Bounded.between?` —
  the steps.
* `Formula.Bounded.item?` — the item at a position.

## Main results

* `Formula.Bounded.item?_eq` — to index a list keeps within the bounds if the length of the list does.
-/

namespace Formula

/-- A position outside a list is refused. -/
lemma Value.entryAt_of_outside {α : Type} {items : List α} {i : Int}
    (h : i < 0 ∨ items.length ≤ i) : entryAt items i = .error (.indexOutOfBounds i items.length) := by
  rw [entryAt]
  by_cases hi : i < 0
  · rw [if_pos hi]
  · rw [if_neg hi, List.getElem?_eq_none (by omega)]

namespace Bounded

variable {α β γ : Type} {items : List α} {i : Int}

/-- The integer, if it is a signed one of 64 bits. -/
def word? (i : Int) : Option Int :=
  if -2 ^ 63 ≤ i ∧ i < 2 ^ 63 then some i else none

/-- The number of items that an integer stands for, if it is not negative. -/
def count? (i : Int) : Option Nat :=
  if 0 ≤ i then some i.toNat else none

/-- The product, if it is an unsigned integer of 64 bits. -/
def product? (a b : Nat) : Option Nat :=
  if a * b < 2 ^ 64 then some (a * b) else none

/-- The items between two places, if the list has these places in this order. -/
def between? (items : List α) (start stop : Nat) : Option (List α) :=
  if start ≤ stop ∧ stop ≤ items.length then some ((items.take stop).drop start) else none

/-- The item at a position counted from `0`, or the refusal of a position outside. -/
def item? (items : List α) (i : Int) : Option (Except EvalError α) := do
  let length ← word? items.length
  if i < 0 ∨ length ≤ i then return .error (.indexOutOfBounds i items.length)
  return .ok (← items[← count? i]?)

/-- A step that has a result hands it on. -/
lemma some_bind (b : β) (f : β → Option γ) : (some b >>= f) = f b :=
  rfl

/-- An integer of 64 bits is one. -/
lemma word?_of_mem (h : -2 ^ 63 ≤ i ∧ i < 2 ^ 63) : word? i = some i :=
  if_pos h

/-- A length below `2 ^ 63` is an integer of 64 bits. -/
lemma word?_length (h : items.length < 2 ^ 63) : word? items.length = some (items.length : Int) :=
  word?_of_mem ⟨by omega, by omega⟩

/-- An integer that is not negative stands for a number of items. -/
lemma count?_of_nonneg (h : 0 ≤ i) : count? i = some i.toNat :=
  if_pos h

/-- A product is there exactly if it fits. -/
lemma product?_eq_some_iff {a b c : Nat} : product? a b = some c ↔ a * b < 2 ^ 64 ∧ a * b = c := by
  rw [product?, Option.ite_none_right_eq_some, Option.some_inj]

/-- Between two places in their order there are items. -/
lemma between?_of_le {start stop : Nat} (h : start ≤ stop) (hstop : stop ≤ items.length) :
    between? items start stop = some ((items.take stop).drop start) :=
  if_pos ⟨h, hstop⟩

/-- A position is only looked up where there is an item.

**Proof sketch.** A position outside is refused. One inside is not negative, and there is an item at it. -/
lemma item?_eq (h : items.length < 2 ^ 63) (i : Int) :
    item? items i = some (Value.entryAt items i) := by
  rw [item?, word?_length h, some_bind]
  by_cases hout : i < 0 ∨ items.length ≤ i
  · rw [if_pos hout, Value.entryAt_of_outside hout]
    rfl
  · obtain ⟨hi, hlt⟩ := not_or.mp hout
    have hget := List.getElem?_eq_getElem (l := items) (i := i.toNat) (by omega)
    rw [if_neg hout, count?_of_nonneg (not_lt.mp hi), some_bind, hget, some_bind,
      Value.entryAt_eq_ok_iff.mpr ⟨not_lt.mp hi, hget⟩]
    rfl

end Bounded

end Formula
