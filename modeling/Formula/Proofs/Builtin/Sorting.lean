import Formula.Proofs.Builtin.Calls
import Formula.Proofs.Value.Comparison

set_option autoImplicit false

/-!
# Sorted arrays

Items are sorted by the total order of values, in which different values may stand beside each other:
one instant at two offsets, for example. Such items keep their order.

## Main results

* `Formula.filter_mergeSort` — sorting a list keeps the order of items none of which is
  greater than another.
* `Formula.Builtin.Lists.sort_sorts` — the function `sort` sorts.
-/

namespace Formula

/-- Sorting keeps items in their places among each other if none of them is greater than another.

**Proof sketch.** As these items are in order already, they are a sublist of the sorted list. There
are no more such items in the sorted list than before. -/
lemma filter_mergeSort {α : Type} {le : α → α → Bool} {items : List α} {p : α → Bool}
    (htrans : ∀ a b c, le a b = true → le b c = true → le a c = true)
    (htotal : ∀ a b, (le a b || le b a) = true)
    (h : ∀ a b, p a = true → p b = true → le a b = true) :
    (items.mergeSort le).filter p = items.filter p := by
  have hinorder : (items.filter p).Pairwise fun a b => le a b = true := by
    refine List.pairwise_of_forall_mem_list fun a ha b hb => ?_
    exact h a b (List.mem_filter.mp ha).2 (List.mem_filter.mp hb).2
  have hsublist : (items.filter p).Sublist ((items.mergeSort le).filter p) := by
    simpa using (List.sublist_mergeSort htrans htotal hinorder List.filter_sublist).filter p
  have hlength := ((List.mergeSort_perm items le).filter p).length_eq
  exact (hsublist.eq_of_length hlength.symm).symm

namespace Builtin.Lists

open Value (totalCompare totalLe)

/-- **The function `sort` sorts.** For every array there is one into which it is sorted:

1. It has the same items, each as often as before.
2. No item stands behind a later one in the total order of values.
3. Of the items that stand beside a value in this order, all stay in the order in which they were.
4. It is sorted into itself.
5. Its reverse is what the array is sorted into if the falling order is asked for.

**Proof sketch.** The order is total, so each of two items that stand beside the same value is not greater
than the other, and a sorted list has nothing left to sort. -/
theorem sort_sorts (items : List Value) :
    ∃ sorted, Gives "sort" [.array items] (.ok (.array sorted)) ∧
      sorted.Perm items ∧
      (sorted.Pairwise fun v w => totalCompare v w ≠ .gt) ∧
      (∀ v, (sorted.filter fun w => totalCompare v w == .eq) =
        items.filter fun w => totalCompare v w == .eq) ∧
      Gives "sort" [.array sorted] (.ok (.array sorted)) ∧
      Gives "sort" [.array items, .bool true] (.ok (.array sorted.reverse)) := by
  have hgives (xs : List Value) : Gives "sort" [.array xs] (.ok (.array (xs.mergeSort totalLe))) :=
    gives_watching rfl rfl rfl
  have hsorted := Value.pairwise_sorted items
  have hagain : (items.mergeSort totalLe).mergeSort totalLe = items.mergeSort totalLe :=
    List.mergeSort_of_pairwise hsorted
  refine ⟨items.mergeSort totalLe, hgives items, List.mergeSort_perm items totalLe,
    hsorted.imp fun hle => Ordering.isLE_iff_ne_gt.mp hle, fun v => ?stable, ?again,
    gives_watching rfl rfl rfl⟩
  case stable =>
    refine filter_mergeSort Value.totalLe_trans Value.totalLe_total fun a b ha hb => ?_
    have hva : totalCompare v a = .eq := eq_of_beq ha
    have hvb : totalCompare v b = .eq := eq_of_beq hb
    have hav : totalCompare a v = .eq := by rw [Value.totalCompare_swap, hva]; rfl
    exact Value.totalLe_trans a v b (by rw [totalLe, hav]; rfl) (by rw [totalLe, hvb]; rfl)
  case again =>
    have h := hgives (items.mergeSort totalLe)
    rwa [hagain] at h

end Builtin.Lists

end Formula
