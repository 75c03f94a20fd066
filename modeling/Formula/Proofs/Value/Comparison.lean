import Formula.Builtin.Lists
import Formula.Evaluation.Operator
import Formula.Proofs.Double.Basic
import Formula.Proofs.Value.Order

set_option autoImplicit false

/-!
# How the comparisons of values agree

There are three of them: equality, the comparison behind `<` and `>`, and the total order that arrays
are sorted by. They differ in NaNs, in the two zeros, and in what they say of values of different
kinds. Elsewhere they agree.

## Main definitions

* `Formula.Value.Plain` — values without NaN and without the negative zero.

## Main results

* `Formula.Value.totalCompare_eq_iff` — plain values stand beside each other if they are equal.
* `Formula.Value.compare?_eq_totalCompare` — plain numbers, texts, timestamps and booleans compare as
  they are ordered.
* `Formula.Value.comparisons_agree` — both, and what it means for sorted arrays.
-/

namespace Formula.Value

/-- No number in the value, at any depth, is a NaN or the negative zero. -/
def Plain (v : Value) : Prop :=
  ∀ x, .number x ∈ v.parts → x.isNaN = false ∧ x ≠ .zero true

section Plain

variable {items : List Value} {fields : List (String × Value)}

/-- A plain number is neither a NaN nor the negative zero. -/
lemma Plain.number {x : Double} (h : (number x).Plain) : x.isNaN = false ∧ x ≠ .zero true :=
  h x (List.mem_singleton.mpr rfl)

/-- The items of a plain array are plain. -/
lemma Plain.item (h : (array items).Plain) {v : Value} (hv : v ∈ items) : v.Plain :=
  fun x hx => h x (mem_parts_of_item hv hx)

/-- The entries of a plain map are plain. -/
lemma Plain.entry (h : (map fields).Plain) {field : String × Value} (hfield : field ∈ fields) :
    field.2.Plain :=
  fun x hx => h x (mem_parts_of_entry hfield hx)

end Plain

variable {a b : Value}

/-- But for NaNs and negative zeros, the order of two numbers is their comparison. -/
lemma compare?_number {x y : Double} (hx : (number x).Plain) (hy : (number y).Plain) :
    x.compare? y = some (totalCompare (number x) (number y)) := by
  obtain ⟨hxnan, hxzero⟩ := hx.number
  obtain ⟨hynan, hyzero⟩ := hy.number
  rw [Double.compare?_of_not_isNaN hxnan hynan, totalCompare,
    Double.totalCompare_eq_compare_key hxzero hyzero]

/-! ## Equality -/

/-- Values that stand beside each other are of one kind. -/
lemma alike_of_totalCompare_eq (h : totalCompare a b = .eq) : Alike a b := by
  refine alike_of_rank_eq ?_
  by_contra hne
  rw [totalCompare_of_rank_ne hne, Nat.compare_eq_eq] at h
  exact hne h

/-- Equal values are of one kind. -/
lemma alike_of_eq (h : a.eq b = true) : Alike a b := by
  cases a <;> cases b <;> first | constructor | cases h

/-- Values of different kinds are neither equal nor beside each other. -/
lemma totalCompare_eq_iff_of_alike (h : Alike a b → (totalCompare a b = .eq ↔ a.eq b = true)) :
    totalCompare a b = .eq ↔ a.eq b = true :=
  ⟨fun heq => (h (alike_of_totalCompare_eq heq)).mp heq, fun heq => (h (alike_of_eq heq)).mpr heq⟩

/-- Arrays stand beside each other if they are equal, provided their items do.

**Proof sketch.** Induction on the first list of items. -/
lemma compareLex_eq_iff_eqItems {items others : List Value}
    (h : ∀ v ∈ items, ∀ w ∈ others, totalCompare v w = .eq ↔ v.eq w = true) :
    items.compareLex totalCompare others = .eq ↔ eqItems items others = true := by
  induction items generalizing others with
  | nil => cases others <;> simp [eqItems, List.compareLex_nil_nil, List.compareLex_nil_cons]
  | cons v rest ih =>
    cases others with
    | nil => simp [eqItems, List.compareLex_cons_nil]
    | cons w others =>
      have hrest := ih fun v' hv' w' hw' =>
        h v' (List.mem_cons_of_mem v hv') w' (List.mem_cons_of_mem w hw')
      rw [List.compareLex_cons_cons, Ordering.then_eq_eq, eqItems, Bool.and_eq_true, hrest,
        h v List.mem_cons_self w List.mem_cons_self]

/-- Maps stand beside each other if they are equal, provided their entries do.

**Proof sketch.** Induction on the first list of fields. -/
lemma compareLex_eq_iff_eqFields {fields others : List (String × Value)}
    (h : ∀ field ∈ fields, ∀ other ∈ others,
      totalCompare field.2 other.2 = .eq ↔ field.2.eq other.2 = true) :
    fields.compareLex compareField others = .eq ↔ eqFields fields others = true := by
  induction fields generalizing others with
  | nil => cases others <;> simp [eqFields, List.compareLex_nil_nil, List.compareLex_nil_cons]
  | cons field rest ih =>
    cases others with
    | nil => simp [eqFields, List.compareLex_cons_nil]
    | cons other others =>
      have hrest := ih fun field' hfield' other' hother' =>
        h field' (List.mem_cons_of_mem field hfield') other' (List.mem_cons_of_mem other hother')
      rw [List.compareLex_cons_cons, Ordering.then_eq_eq, compareField, Ordering.then_eq_eq,
        eqFields, Bool.and_eq_true, Bool.and_eq_true, hrest, Std.LawfulEqOrd.compare_eq_iff_eq,
        beq_iff_eq, h field List.mem_cons_self other List.mem_cons_self]

/-- Plain values stand beside each other if they are equal.

**Proof sketch.** Induction on the first value, where the second may be taken to be of the same kind.
Numbers are plain, so the bits decide nothing that their values do not, and arrays and maps go on to
their parts, which are plain too. -/
lemma totalCompare_eq_iff (ha : a.Plain) (hb : b.Plain) :
    totalCompare a b = .eq ↔ a.eq b = true := by
  induction a using Value.induction generalizing b with
  | null =>
    refine totalCompare_eq_iff_of_alike fun hab => ?_
    cases hab with
    | null => exact ⟨fun _ => rfl, fun _ => rfl⟩
  | bool x =>
    refine totalCompare_eq_iff_of_alike fun hab => ?_
    cases hab with
    | bool _ y => rw [totalCompare, Std.LawfulEqOrd.compare_eq_iff_eq, Value.eq, beq_iff_eq]
  | number x =>
    refine totalCompare_eq_iff_of_alike fun hab => ?_
    cases hab with
    | number _ y => rw [Value.eq, Double.eq, compare?_number ha hb, beq_iff_eq, Option.some_inj]
  | string s =>
    refine totalCompare_eq_iff_of_alike fun hab => ?_
    cases hab with
    | string _ t => rw [totalCompare, Std.LawfulEqOrd.compare_eq_iff_eq, Value.eq, beq_iff_eq]
  | timestamp t =>
    refine totalCompare_eq_iff_of_alike fun hab => ?_
    cases hab with
    | timestamp _ u =>
      rw [totalCompare, Timestamp.compare, Std.LawfulEqOrd.compare_eq_iff_eq, Value.eq,
        Timestamp.eq, beq_iff_eq]
  | array items ih =>
    refine totalCompare_eq_iff_of_alike fun hab => ?_
    cases hab with
    | array _ others =>
      rw [totalCompare_array, Value.eq]
      exact compareLex_eq_iff_eqItems fun v hv w hw => ih v hv (ha.item hv) (hb.item hw)
  | map fields ih =>
    refine totalCompare_eq_iff_of_alike fun hab => ?_
    cases hab with
    | map _ others =>
      rw [totalCompare_map, Value.eq]
      exact compareLex_eq_iff_eqFields fun field hfield other hother =>
        ih field hfield (ha.entry hfield) (hb.entry hother)

/-! ## Comparison -/

/-- The kinds of values that `<` and `>` compare as they are: numbers, texts, timestamps, booleans. -/
def comparableKinds : List String :=
  ["number", "string", "timestamp", "boolean"]

/-- Values with the same name for their kind are of one kind. -/
lemma alike_of_typeName_eq (h : a.typeName = b.typeName) : Alike a b := by
  cases a <;> cases b <;> first | constructor | simp [typeName] at h

/-- Plain values of one comparable kind compare as they are ordered. -/
lemma compare?_eq_totalCompare (ha : a.Plain) (hb : b.Plain)
    (hkind : a.typeName ∈ comparableKinds) (hsame : a.typeName = b.typeName) :
    a.compare? b = some (totalCompare a b) := by
  cases alike_of_typeName_eq hsame with
  | number x y => exact compare?_number ha hb
  | bool | string | timestamp => rfl
  | null | array | map => simp [typeName, comparableKinds] at hkind

/-- An order operator answers by how its operands compare. -/
lemma order_eq (symbol : String) (holds : Ordering → Bool) {o : Ordering}
    (h : a.compare? b = some o) : a.order symbol holds b = .ok (.bool (holds o)) := by
  unfold order
  rw [h]

/-! ## Sorted arrays -/

/-- Sorting leaves no item behind a greater one. -/
lemma pairwise_sorted (items : List Value) :
    (items.mergeSort totalLe).Pairwise fun v w => (totalCompare v w).isLE = true :=
  List.pairwise_mergeSort totalLe_trans totalLe_total items

/-- **The comparisons of values agree where they overlap.**

1. Two plain values, whatever their kinds, stand beside each other in the total order exactly if they
   are equal.
2. Two plain values of one comparable kind compare as they stand in the total order, and the operators
   `<` and `>` say so.
3. An array of plain values of one comparable kind is sorted into an array of the same items in which
   no item is `>` a later one, and no later one is `<` it.

**Proof sketch.** Equality and the order are compared by induction on the first value. Numbers are
where they could differ: the total order goes by bit patterns, which are in numerical order but for
NaNs and the negative zero. -/
theorem comparisons_agree :
    (∀ a b : Value, a.Plain → b.Plain → (totalCompare a b = .eq ↔ a.eq b = true)) ∧
    (∀ a b : Value, a.Plain → b.Plain → a.typeName ∈ comparableKinds → a.typeName = b.typeName →
      a.compare? b = some (totalCompare a b) ∧
      BinaryOperator.lt.apply a b = .ok (.bool (totalCompare a b).isLT) ∧
      BinaryOperator.gt.apply a b = .ok (.bool (totalCompare a b).isGT)) ∧
    (∀ kind ∈ comparableKinds, ∀ items : List Value,
      (∀ v ∈ items, v.Plain ∧ v.typeName = kind) →
      ∃ sorted, (Builtin.Lists.sort [.array items]).result = .ok (.array sorted) ∧
        sorted.Perm items ∧ sorted.Pairwise fun v w =>
          BinaryOperator.gt.apply v w = .ok (.bool false) ∧
          BinaryOperator.lt.apply w v = .ok (.bool false)) := by
  have hoperators (a b : Value) (ha : a.Plain) (hb : b.Plain)
      (hkind : a.typeName ∈ comparableKinds) (hsame : a.typeName = b.typeName) :
      a.compare? b = some (totalCompare a b) ∧
        BinaryOperator.lt.apply a b = .ok (.bool (totalCompare a b).isLT) ∧
        BinaryOperator.gt.apply a b = .ok (.bool (totalCompare a b).isGT) := by
    have hcompare := compare?_eq_totalCompare ha hb hkind hsame
    exact ⟨hcompare, order_eq _ _ hcompare, order_eq _ _ hcompare⟩
  refine ⟨fun a b => totalCompare_eq_iff, hoperators, fun kind hkind items hitems => ?_⟩
  refine ⟨items.mergeSort totalLe, rfl, List.mergeSort_perm items totalLe, ?_⟩
  refine (pairwise_sorted items).imp_of_mem fun {v w} hv hw hle => ?_
  obtain ⟨hvplain, hvkind⟩ := hitems v (List.mem_mergeSort.mp hv)
  obtain ⟨hwplain, hwkind⟩ := hitems w (List.mem_mergeSort.mp hw)
  have hgt := (hoperators v w hvplain hwplain (hvkind ▸ hkind) (hvkind.trans hwkind.symm)).2.2
  have hlt := (hoperators w v hwplain hvplain (hwkind ▸ hkind) (hwkind.trans hvkind.symm)).2.1
  rw [hgt, hlt, totalCompare_swap w v]
  cases h : totalCompare v w with
  | lt | eq => exact ⟨rfl, rfl⟩
  | gt =>
    rw [h] at hle
    cases hle

/-- Maps with the same instant at two offsets are equal and beside each other; and two and minus a half
are sorted so that `<` and `>` agree. -/
theorem comparisons_agree_instants :
    let t : Timestamp := ⟨⟨19782⟩, 43200, 0, 7200, by decide, by decide⟩
    let a : Value := .map [("x", .array [.number (.zero false)]), ("y", .timestamp t)]
    let b : Value := .map [("x", .array [.number (.zero false)]), ("y", .timestamp t.utc)]
    let two : Value := .number ⟨0x4000000000000000⟩
    let minusHalf : Value := .number ⟨0xbfe0000000000000⟩
    totalCompare a b = .eq ∧ a.eq b = true ∧
    BinaryOperator.lt.apply two minusHalf = .ok (.bool false) ∧
    ∃ sorted, (Builtin.Lists.sort [.array [two, minusHalf]]).result = .ok (.array sorted) ∧
      sorted.Perm [two, minusHalf] ∧ sorted.Pairwise fun v w =>
        BinaryOperator.gt.apply v w = .ok (.bool false) ∧
        BinaryOperator.lt.apply w v = .ok (.bool false) := by
  intro t a b two minusHalf
  have ha : a.Plain := by
    intro x hx
    obtain rfl : x = .zero false := by simpa [a, parts, partsAll, partsFields] using hx
    decide
  have hb : b.Plain := by
    intro x hx
    obtain rfl : x = .zero false := by simpa [b, parts, partsAll, partsFields] using hx
    decide
  have htwo : two.Plain := by
    intro x hx
    obtain rfl : x = ⟨0x4000000000000000⟩ := by simpa [two, parts] using hx
    decide
  have hminusHalf : minusHalf.Plain := by
    intro x hx
    obtain rfl : x = ⟨0xbfe0000000000000⟩ := by simpa [minusHalf, parts] using hx
    decide
  have heq : totalCompare a b = .eq := by decide
  have hlt : totalCompare two minusHalf = .gt := by decide
  have hkind : "number" ∈ comparableKinds := by decide
  refine ⟨heq, (comparisons_agree.1 a b ha hb).mp heq, ?_, ?_⟩
  · rw [(comparisons_agree.2.1 two minusHalf htwo hminusHalf hkind rfl).2.1, hlt]
    rfl
  · exact comparisons_agree.2.2 "number" hkind [two, minusHalf]
      (List.forall_mem_cons.mpr ⟨⟨htwo, rfl⟩, List.forall_mem_singleton.mpr ⟨hminusHalf, rfl⟩⟩)

end Formula.Value
