import Formula.Proofs.Value.Basic
import Formula.Value.Order

set_option autoImplicit false

/-!
# The order of values is total

Arrays and maps are ordered as lists are, by the first entries that differ. So the laws of the order
pass from entries to arrays and maps, and from there to all values.

## Main definitions

* `Formula.Chained` — how the comparisons of three things fit together.

## Main results

* `Formula.Chained.compareLex` — comparisons of three lists fit together if those of their items do.
* `Formula.Value.chained_totalCompare` — comparisons of three values fit together.
* `Formula.Value.totalCompare_laws` — the order is total.
-/

namespace Formula

/-! ## Comparisons of three things -/

/-- How the comparisons of three things fit together. If the first is not behind the second, nor the
second behind the third, then the first stands to the third as it stands to the second, or as the
second stands to the third if it stands beside it. -/
def Chained (first second whole : Ordering) : Prop :=
  first ≠ .gt → second ≠ .gt → whole = first.then second

namespace Chained

/-- Comparisons by a lawful order fit together. -/
lemma of_transCmp {α : Type} (cmp : α → α → Ordering) [Std.TransCmp cmp] (a b c : α) :
    Chained (cmp a b) (cmp b c) (cmp a c) := by
  intro hab hbc
  cases h : cmp a b with
  | lt => exact Std.TransCmp.lt_of_lt_of_isLE h (Ordering.isLE_iff_ne_gt.mpr hbc)
  | eq => exact Std.TransCmp.congr_left h
  | gt => exact absurd h hab

/-- Comparisons by one thing and then by another fit together if those by each do. -/
lemma and_then {first second whole first' second' whole' : Ordering}
    (h : Chained first second whole) (h' : Chained first' second' whole') :
    Chained (first.then first') (second.then second') (whole.then whole') := by
  unfold Chained at *
  cases first <;> cases second <;> cases first' <;> simp_all

end Chained

/-! ## Lists by their items -/

section Lists

variable {α : Type} {cmp : α → α → Ordering} {xs : List α}

/-- A list stands beside itself if its items do.

**Proof sketch.** Induction on the list. Each comparison of two items is decided by the next one. -/
lemma compareLex_self (h : ∀ x ∈ xs, cmp x x = .eq) : xs.compareLex cmp xs = .eq := by
  induction xs with
  | nil => rfl
  | cons x rest ih =>
    obtain ⟨hx, hrest⟩ := List.forall_mem_cons.mp h
    rw [List.compareLex_cons_cons, hx, ih hrest]
    rfl

/-- Comparisons of two lists are turned around with those of their items.

**Proof sketch.** Induction on the list. If either list is at its end, the shorter one stands in front. -/
lemma compareLex_swap (h : ∀ x ∈ xs, ∀ y, cmp x y = (cmp y x).swap) (ys : List α) :
    xs.compareLex cmp ys = (ys.compareLex cmp xs).swap := by
  induction xs generalizing ys with
  | nil => cases ys <;> rfl
  | cons x rest ih =>
    obtain ⟨hx, hrest⟩ := List.forall_mem_cons.mp h
    cases ys with
    | nil => rfl
    | cons y others =>
      rw [List.compareLex_cons_cons, List.compareLex_cons_cons, Ordering.swap_then, hx, ih hrest]

/-- Comparisons of three lists fit together if those of their items do.

**Proof sketch.** Induction on the first list. At the end of a list the comparison is decided, and in
front of the others it is put together from the one of the first items and the one of the rest
(`Chained.and_then`). -/
lemma Chained.compareLex (h : ∀ x ∈ xs, ∀ y z, Chained (cmp x y) (cmp y z) (cmp x z))
    (ys zs : List α) :
    Chained (xs.compareLex cmp ys) (ys.compareLex cmp zs) (xs.compareLex cmp zs) := by
  induction xs generalizing ys zs with
  | nil =>
    -- Nothing stands in front of the empty list, so it may stand beside the second or before it.
    cases ys with
    | nil => exact fun _ _ => rfl
    | cons y others =>
      cases zs with
      | nil => exact fun _ hgt => absurd List.compareLex_cons_nil hgt
      | cons z more => exact fun _ _ => rfl
  | cons x rest ih =>
    obtain ⟨hx, hrest⟩ := List.forall_mem_cons.mp h
    cases ys with
    | nil => exact fun hgt _ => absurd List.compareLex_cons_nil hgt
    | cons y others =>
      cases zs with
      | nil => exact fun _ hgt => absurd List.compareLex_cons_nil hgt
      | cons z more =>
        simp only [List.compareLex_cons_cons]
        exact (hx y z).and_then (ih hrest others more)

end Lists

namespace Value

/-- The order of map entries: first by keys, then by values. -/
def compareField (field other : String × Value) : Ordering :=
  (compare field.1 other.1).then (totalCompare field.2 other.2)

/-- Items are compared one after the other.

**Proof sketch.** Induction on the items. -/
lemma totalCompareItems_eq (items others : List Value) :
    totalCompareItems items others = items.compareLex totalCompare others := by
  induction items generalizing others with
  | nil => cases others <;> rfl
  | cons v rest ih =>
    cases others with
    | nil => rfl
    | cons w others => rw [totalCompareItems, ih, List.compareLex_cons_cons]

/-- Fields are compared one after the other.

**Proof sketch.** Induction on the fields. -/
lemma totalCompareFields_eq (fields others : List (String × Value)) :
    totalCompareFields fields others = fields.compareLex compareField others := by
  induction fields generalizing others with
  | nil => cases others <;> rfl
  | cons field rest ih =>
    cases others with
    | nil => rfl
    | cons other others => rw [totalCompareFields, ih, List.compareLex_cons_cons, compareField]

/-- Arrays are compared by their items. -/
lemma totalCompare_array (items others : List Value) :
    totalCompare (.array items) (.array others) = items.compareLex totalCompare others := by
  rw [totalCompare, totalCompareItems_eq]

/-- Maps are compared by their fields. -/
lemma totalCompare_map (fields others : List (String × Value)) :
    totalCompare (.map fields) (.map others) = fields.compareLex compareField others := by
  rw [totalCompare, totalCompareFields_eq]

/-! ## Values of different kinds -/

variable {a b c : Value}

/-- Values of different kinds are compared by their kinds. -/
lemma totalCompare_of_rank_ne (h : a.rank ≠ b.rank) :
    totalCompare a b = compare a.rank b.rank := by
  cases a <;> cases b <;> first | rfl | exact absurd rfl h

/-- A value of an earlier kind stands in front. -/
lemma totalCompare_of_rank_lt (h : a.rank < b.rank) : totalCompare a b = .lt := by
  rw [totalCompare_of_rank_ne (Nat.ne_of_lt h), Nat.compare_eq_lt.mpr h]

/-- A value of a later kind stands behind. -/
lemma totalCompare_of_rank_gt (h : b.rank < a.rank) : totalCompare a b = .gt := by
  rw [totalCompare_of_rank_ne (Nat.ne_of_gt h), Nat.compare_eq_gt.mpr h]

/-- Values of one kind. -/
inductive Alike : Value → Value → Prop where
  | null : Alike .null .null
  | bool (a b : Bool) : Alike (.bool a) (.bool b)
  | number (x y : Double) : Alike (.number x) (.number y)
  | string (s t : String) : Alike (.string s) (.string t)
  | array (items others : List Value) : Alike (.array items) (.array others)
  | map (fields others : List (String × Value)) : Alike (.map fields) (.map others)
  | timestamp (t u : Timestamp) : Alike (.timestamp t) (.timestamp u)

/-- Values of one rank are of one kind. -/
lemma alike_of_rank_eq (h : a.rank = b.rank) : Alike a b := by
  cases a <;> cases b <;> first | constructor | cases h

/-- The order of two values can be turned around if that of values of one kind can.

**Proof sketch.** Values of different kinds are compared by the ranks of their kinds, which can be
turned around. -/
lemma totalCompare_swap_of_alike
    (h : ∀ b, Alike a b → totalCompare a b = (totalCompare b a).swap) (b : Value) :
    totalCompare a b = (totalCompare b a).swap := by
  rcases Nat.lt_trichotomy a.rank b.rank with hlt | heq | hgt
  · rw [totalCompare_of_rank_lt hlt, totalCompare_of_rank_gt hlt]
    rfl
  · exact h b (alike_of_rank_eq heq)
  · rw [totalCompare_of_rank_lt hgt, totalCompare_of_rank_gt hgt]
    rfl

/-- Comparisons of three values fit together if those of values of one kind do.

**Proof sketch.** If two of the values are of different kinds, then their ranks decide, and the third
rank lies on the right side of them. Otherwise all are of one kind. -/
lemma chained_of_alike
    (h : ∀ b c, Alike a b → Alike b c →
      Chained (totalCompare a b) (totalCompare b c) (totalCompare a c)) (b c : Value) :
    Chained (totalCompare a b) (totalCompare b c) (totalCompare a c) := by
  intro hab hbc
  have hrankab : a.rank ≤ b.rank := Nat.not_lt.mp fun hgt => hab (totalCompare_of_rank_gt hgt)
  have hrankbc : b.rank ≤ c.rank := Nat.not_lt.mp fun hgt => hbc (totalCompare_of_rank_gt hgt)
  rcases Nat.lt_or_eq_of_le hrankab with hltab | heqab
  · rw [totalCompare_of_rank_lt hltab, totalCompare_of_rank_lt (Nat.lt_of_lt_of_le hltab hrankbc)]
    rfl
  · rcases Nat.lt_or_eq_of_le hrankbc with hltbc | heqbc
    · rw [totalCompare_of_rank_lt hltbc, totalCompare_of_rank_lt (heqab ▸ hltbc)]
      cases htc : totalCompare a b with
      | lt => rfl
      | eq => rfl
      | gt => exact absurd htc hab
    · exact h b c (alike_of_rank_eq heqab) (alike_of_rank_eq heqbc) hab hbc

/-! ## All values -/

/-- A value stands beside itself.

**Proof sketch.** Induction on the value. Arrays and maps stand beside themselves if their parts do. -/
lemma totalCompare_self (v : Value) : totalCompare v v = .eq := by
  induction v using Value.induction with
  | null => rfl
  | bool b => exact Std.ReflOrd.compare_self
  | number x => exact Std.ReflOrd.compare_self
  | string s => exact Std.ReflOrd.compare_self
  | timestamp t => exact Std.ReflOrd.compare_self
  | array items ih => rw [totalCompare_array, compareLex_self ih]
  | map fields ih =>
    rw [totalCompare_map]
    refine compareLex_self fun field hfield => ?_
    rw [compareField, ih field hfield, Std.ReflOrd.compare_self]
    rfl

/-- The order of two values can be turned around.

**Proof sketch.** Induction on the first value. Values of different kinds are compared by their kinds,
plain values by the orders of their kinds, and arrays and maps by their parts. -/
lemma totalCompare_swap (a b : Value) : totalCompare a b = (totalCompare b a).swap := by
  induction a using Value.induction generalizing b with
  | null =>
    refine totalCompare_swap_of_alike (fun b hb => ?_) b
    cases hb with
    | null => rfl
  | bool x =>
    refine totalCompare_swap_of_alike (fun b hb => ?_) b
    cases hb with
    | bool _ y => exact Std.OrientedOrd.eq_swap
  | number x =>
    refine totalCompare_swap_of_alike (fun b hb => ?_) b
    cases hb with
    | number _ y => exact Std.OrientedOrd.eq_swap
  | string s =>
    refine totalCompare_swap_of_alike (fun b hb => ?_) b
    cases hb with
    | string _ t => exact Std.OrientedOrd.eq_swap
  | timestamp t =>
    refine totalCompare_swap_of_alike (fun b hb => ?_) b
    cases hb with
    | timestamp _ u => exact Std.OrientedOrd.eq_swap
  | array items ih =>
    refine totalCompare_swap_of_alike (fun b hb => ?_) b
    cases hb with
    | array _ others =>
      rw [totalCompare_array, totalCompare_array]
      exact compareLex_swap ih others
  | map fields ih =>
    refine totalCompare_swap_of_alike (fun b hb => ?_) b
    cases hb with
    | map _ others =>
      rw [totalCompare_map, totalCompare_map]
      refine compareLex_swap (fun field hfield other => ?_) others
      rw [compareField, compareField, Ordering.swap_then, ih field hfield, Std.OrientedOrd.eq_swap]

/-- Comparisons of three values fit together.

**Proof sketch.** Induction on the first value. Values of different kinds are compared by their kinds,
plain values by the orders of their kinds, which are lawful, and arrays and maps by their parts. -/
lemma chained_totalCompare (a b c : Value) :
    Chained (totalCompare a b) (totalCompare b c) (totalCompare a c) := by
  -- In every case the other two values may be taken to be of the same kind as the first.
  induction a using Value.induction generalizing b c with
  | null =>
    refine chained_of_alike (fun b c hb hc => ?_) b c
    cases hb with
    | null => cases hc with
      | null => exact fun _ _ => rfl
  | bool x =>
    refine chained_of_alike (fun b c hb hc => ?_) b c
    cases hb with
    | bool _ y => cases hc with
      | bool _ z => exact .of_transCmp compare x y z
  | number x =>
    refine chained_of_alike (fun b c hb hc => ?_) b c
    cases hb with
    | number _ y => cases hc with
      | number _ z => exact .of_transCmp compare x.totalKey y.totalKey z.totalKey
  | string s =>
    refine chained_of_alike (fun b c hb hc => ?_) b c
    cases hb with
    | string _ t => cases hc with
      | string _ u => exact .of_transCmp compare s t u
  | timestamp t =>
    refine chained_of_alike (fun b c hb hc => ?_) b c
    cases hb with
    | timestamp _ u => cases hc with
      | timestamp _ w => exact .of_transCmp compare t.instant u.instant w.instant
  | array items ih =>
    refine chained_of_alike (fun b c hb hc => ?_) b c
    cases hb with
    | array _ others => cases hc with
      | array _ more =>
        simp only [totalCompare_array]
        exact .compareLex ih others more
  | map fields ih =>
    refine chained_of_alike (fun b c hb hc => ?_) b c
    cases hb with
    | map _ others => cases hc with
      | map _ more =>
        simp only [totalCompare_map]
        refine .compareLex (fun field hfield other last => ?_) others more
        exact (Chained.of_transCmp compare field.1 other.1 last.1).and_then
          (ih field hfield other.2 last.2)

instance : Std.TransCmp totalCompare where
  eq_swap := totalCompare_swap _ _
  isLE_trans hab hbc := by
    rw [chained_totalCompare _ _ _ (Ordering.isLE_iff_ne_gt.mp hab)
      (Ordering.isLE_iff_ne_gt.mp hbc)]
    exact Ordering.isLE_then_iff_and.mpr ⟨hab, .inr hbc⟩

/-- The order of values is transitive. -/
lemma totalLe_trans (a b c : Value) (hab : totalLe a b = true) (hbc : totalLe b c = true) :
    totalLe a c = true :=
  Std.TransCmp.isLE_trans hab hbc

/-- Of two values one does not stand behind the other. -/
lemma totalLe_total (a b : Value) : (totalLe a b || totalLe b a) = true := by
  rw [totalLe, totalLe, totalCompare_swap a b]
  cases totalCompare b a <;> rfl

/-- **The order of values is total.** For all values, of whatever kinds, with NaNs and both zeros in
them:

1. a value stands beside itself;
2. the second stands to the first in reverse of how the first stands to the second;
3. if the first is not behind the second, nor the second behind the third, then the first is not behind
   the third, and it is before the third if it is before the second, or the second before the third.

**Proof sketch.** Induction on the first value. Values of different kinds are ordered as their ranks
are, so the three may be taken to be of one kind. Numbers, texts, booleans and timestamps are ordered as
keys of an order known to be total. Arrays and maps are ordered as lists, by the first entries that
differ. -/
theorem totalCompare_laws (a b c : Value) :
    totalCompare a a = .eq ∧ totalCompare a b = (totalCompare b a).swap ∧
    (totalCompare a b ≠ .gt → totalCompare b c ≠ .gt → totalCompare a c ≠ .gt ∧
      (totalCompare a b = .lt ∨ totalCompare b c = .lt → totalCompare a c = .lt)) := by
  refine ⟨totalCompare_self a, totalCompare_swap a b, fun hab hbc => ?_⟩
  have hleab := Ordering.isLE_iff_ne_gt.mpr hab
  have hlebc := Ordering.isLE_iff_ne_gt.mpr hbc
  refine ⟨Ordering.isLE_iff_ne_gt.mp (Std.TransCmp.isLE_trans hleab hlebc), ?_⟩
  rintro (hlt | hlt)
  · exact Std.TransCmp.lt_of_lt_of_isLE hlt hlebc
  · exact Std.TransCmp.lt_of_isLE_of_lt hleab hlt

/-- Arrays with the negative zero, with zero, and with zero and a map that holds a NaN. -/
theorem totalCompare_laws_zeros :
    let a : Value := .array [.array [.number (.zero true)], .null]
    let b : Value := .array [.array [.number (.zero false)], .null]
    let c : Value := .array [.array [.number (.zero false)], .map [("x", .number .nan)]]
    totalCompare a b = .lt ∧ totalCompare b c = .lt ∧ totalCompare a c = .lt := by
  intro a b c
  have hab : totalCompare a b = .lt := by decide
  have hbc : totalCompare b c = .lt := by decide
  have hlaws := (totalCompare_laws a b c).2.2 (by rw [hab]; decide) (by rw [hbc]; decide)
  exact ⟨hab, hbc, hlaws.2 (.inl hab)⟩

end Value

end Formula
