import Formula.Proofs.Builtin.Calls
import Formula.Proofs.Value.Equality

set_option autoImplicit false

/-!
# First occurrences

An item is dropped if it is equal to one that is kept. As equality is transitive, this is so if it is equal
to any earlier item, kept or not.

## Main definitions

* `Formula.Builtin.Lists.newcomers` — the items that are equal to no earlier item, with their places.

## Main results

* `Formula.Builtin.Lists.firsts_eq` — the items that are kept are those that are equal to no earlier item.
* `Formula.Builtin.Lists.unique_newcomers` — so it is for the function `unique`.
-/

namespace Formula.Builtin.Lists

variable {items kept rest : List Value} {v w : Value} {i : Nat}

/-- The items that are equal to no earlier item, with their places. -/
def newcomers (items : List Value) : List (Value × Nat) :=
  items.zipIdx.filter fun entry => !entry.1.memberOf (items.take entry.2)

/-- A value is no member of a list if it is equal to none of the items. -/
lemma memberOf_eq_false : v.memberOf items = false ↔ ∀ w ∈ items, w.eq v = false := by
  simp [Value.memberOf]

/-- A newcomer is an item at its place that is equal to none of the items before it. -/
lemma mem_newcomers :
    (v, i) ∈ newcomers items ↔ items[i]? = some v ∧ ∀ w ∈ items.take i, w.eq v = false := by
  simp [newcomers, List.mem_zipIdx_iff_getElem?, memberOf_eq_false]

/-! ## What is kept -/

/-- An item that is equal to one that was kept is dropped. -/
lemma firsts_of_memberOf (h : v.memberOf kept = true) : firsts kept (v :: rest) = firsts kept rest :=
  if_pos h

/-- An item that is equal to none that was kept is kept. -/
lemma firsts_of_not_memberOf (h : v.memberOf kept = false) :
    firsts kept (v :: rest) = v :: firsts (v :: kept) rest :=
  if_neg (Bool.eq_false_iff.mp h)

/-- What is kept is equal to nothing that was kept before.

**Proof sketch.** Induction on the items that are left. -/
lemma not_eq_of_mem_firsts (hv : v ∈ firsts kept rest) : ∀ w ∈ kept, w.eq v = false := by
  induction rest generalizing kept with
  | nil => cases hv
  | cons u rest ih =>
    cases hu : u.memberOf kept with
    | true =>
      rw [firsts_of_memberOf hu] at hv
      exact ih hv
    | false =>
      rw [firsts_of_not_memberOf hu] at hv
      rcases List.mem_cons.mp hv with rfl | hv
      · exact memberOf_eq_false.mp hu
      · exact (List.forall_mem_cons.mp (ih hv)).2

/-- No two of the items that are kept are equal.

**Proof sketch.** Induction on the items that are left. What is kept later is equal to nothing that was
kept before. -/
lemma pairwise_firsts (kept rest : List Value) :
    (firsts kept rest).Pairwise fun v w => v.eq w = false := by
  induction rest generalizing kept with
  | nil => exact .nil
  | cons u rest ih =>
    cases hu : u.memberOf kept with
    | true =>
      rw [firsts_of_memberOf hu]
      exact ih kept
    | false =>
      rw [firsts_of_not_memberOf hu]
      exact .cons (fun w hw => not_eq_of_mem_firsts hw u List.mem_cons_self) (ih _)

/-- An item that is equal to itself is equal to one that was kept or is kept.

**Proof sketch.** Induction on the items that are left. -/
lemma memberOf_firsts (kept : List Value) (hv : v ∈ rest) (hself : v.eq v = true) :
    v.memberOf kept = true ∨ v.memberOf (firsts kept rest) = true := by
  induction rest generalizing kept with
  | nil => cases hv
  | cons u rest ih =>
    cases hu : u.memberOf kept with
    | true =>
      rw [firsts_of_memberOf hu]
      rcases List.mem_cons.mp hv with rfl | hv
      · exact .inl hu
      · exact ih kept hv
    | false =>
      rw [firsts_of_not_memberOf hu]
      rcases List.mem_cons.mp hv with rfl | hv
      · exact .inr (by simp [Value.memberOf, hself])
      · have h := ih (u :: kept) hv
        simp only [Value.memberOf, List.any_cons, Bool.or_eq_true] at h ⊢
        tauto

/-- Items none of which is equal to an earlier one, or to one that was kept, are all kept.

**Proof sketch.** Induction on the items. -/
lemma firsts_of_pairwise (h : rest.Pairwise fun v w => v.eq w = false)
    (hkept : ∀ v ∈ rest, v.memberOf kept = false) : firsts kept rest = rest := by
  induction rest generalizing kept with
  | nil => rfl
  | cons u rest ih =>
    obtain ⟨hu, hrest⟩ := List.forall_mem_cons.mp hkept
    obtain ⟨hdiffer, hpairwise⟩ := List.pairwise_cons.mp h
    rw [firsts_of_not_memberOf hu, ih hpairwise]
    intro v hv
    rw [Value.memberOf, List.any_cons, hdiffer v hv]
    exact hrest v hv

/-- What is kept of the items behind earlier ones are those that are equal to no earlier item, provided
that the items kept so far have the same equals as the earlier ones.

**Proof sketch.** An item that is dropped is equal to one that was kept. What is equal to it is equal to
that one too, so those kept so far still have the same equals. -/
lemma firsts_eq (earlier rest : List Value)
    (hkept : ∀ v : Value, v.memberOf kept = v.memberOf earlier) :
    firsts kept rest = ((rest.zipIdx earlier.length).filter fun entry =>
      !entry.1.memberOf ((earlier ++ rest).take entry.2)).map Prod.fst := by
  induction rest generalizing kept earlier with
  | nil => rfl
  | cons u rest ih =>
    have hmember (v : Value) : v.memberOf (earlier ++ [u]) = (v.memberOf earlier || u.eq v) := by
      simp [Value.memberOf]
    have hnext (kept' : List Value)
        (hkept' : ∀ v : Value, v.memberOf kept' = v.memberOf (earlier ++ [u])) :
        firsts kept' rest = ((rest.zipIdx (earlier.length + 1)).filter fun entry =>
          !entry.1.memberOf ((earlier ++ u :: rest).take entry.2)).map Prod.fst := by
      have h := ih (earlier ++ [u]) hkept'
      rwa [List.length_append, List.append_assoc] at h
    rw [List.zipIdx_cons, List.filter_cons, List.take_left, ← hkept]
    cases hu : u.memberOf kept with
    | true =>
      rw [firsts_of_memberOf hu]
      refine hnext kept fun v => ?_
      rw [hmember, ← hkept]
      cases hv : u.eq v with
      | false => rw [Bool.or_false]
      | true =>
        -- An item that is dropped is equal to one that was kept, which stands for it from here on.
        obtain ⟨w, hw, hwu⟩ := List.any_eq_true.mp hu
        rw [Bool.or_true]
        exact List.any_eq_true.mpr ⟨w, hw, Value.eq_trans hwu hv⟩
    | false =>
      rw [firsts_of_not_memberOf hu]
      refine congrArg (u :: ·) (hnext (u :: kept) fun v => ?_)
      rw [hmember, ← hkept, Value.memberOf, List.any_cons, Bool.or_comm]
      rfl

/-- **The function `unique` keeps the first occurrences.** For every array there is one of which it leaves that
one:

1. Its items are those that are equal to no earlier item, in their order.
2. No two of them are equal.
3. An item of the array that is equal to itself is equal to one of them.
4. An item that contains a NaN, at any depth, is one of them, as often as it is there.
5. It leaves them as they are.

**Proof sketch.** An item is compared with those that are kept only. If it is equal to one that was
dropped, it is equal to what that one was equal to, and so on, until one that was kept. A value with a NaN
in it is equal to nothing. -/
theorem unique_newcomers (items : List Value) :
    ∃ kept, Gives "unique" [.array items] (.ok (.array kept)) ∧
      kept = (newcomers items).map Prod.fst ∧ kept.Sublist items ∧
      (kept.Pairwise fun v w => v.eq w = false ∧ w.eq v = false) ∧
      (∀ v ∈ items, v.eq v = true → ∃ w ∈ kept, v.eq w = true) ∧
      (∀ i v, items[i]? = some v → v.ContainsNaN → (v, i) ∈ newcomers items) ∧
      Gives "unique" [.array kept] (.ok (.array kept)) := by
  have hgives (xs : List Value) : Gives "unique" [.array xs] (.ok (.array (firsts [] xs))) := by
    refine gives_watching rfl rfl ?_
    show (Looking.lookAtEach xs >>= fun _ => pure (Value.array (firsts [] xs))).result = _
    rw [Looking.result_afterLooks]
    rfl
  have hfirsts : firsts [] items = (newcomers items).map Prod.fst := firsts_eq [] items fun _ => rfl
  have hpairwise := pairwise_firsts [] items
  refine ⟨firsts [] items, hgives items, hfirsts, ?sublist, ?different, ?equal, ?nans, ?again⟩
  case sublist =>
    have h := (List.filter_sublist (p := fun entry : Value × Nat =>
      !entry.1.memberOf (items.take entry.2)) (l := items.zipIdx)).map Prod.fst
    rwa [List.zipIdx_map_fst, ← newcomers, ← hfirsts] at h
  case different =>
    refine hpairwise.imp fun {v w} h => ⟨h, ?_⟩
    rw [Bool.eq_false_iff] at h ⊢
    exact fun hwv => h ((Value.eq_swap w v).mp hwv)
  case equal =>
    intro v hv hself
    rcases memberOf_firsts [] hv hself with h | h
    · cases h
    · obtain ⟨w, hw, hwv⟩ := List.any_eq_true.mp h
      exact ⟨w, hw, (Value.eq_swap w v).mp hwv⟩
  case nans =>
    intro i v hv hnan
    exact mem_newcomers.mpr ⟨hv, fun w _ => Value.eq_of_containsNaN hnan w⟩
  case again =>
    have h := hgives (firsts [] items)
    rwa [firsts_of_pairwise hpairwise fun _ _ => rfl] at h

/-- Arrays with a NaN in them are kept, however often they are there, and of the two zeros the first. -/
theorem unique_newcomers_nan :
    let v : Value := .array [.number .nan]
    let items : List Value := [v, .number (.zero true), v, .number (.zero false)]
    items[2]? = some v ∧ v.ContainsNaN ∧ (v, 2) ∈ newcomers items ∧
    Gives "unique" [.array items] (.ok (.array [v, .number (.zero true), v])) := by
  intro v items
  have hnan : v.ContainsNaN := ⟨.nan, by simp [v, Value.parts, Value.partsAll], by decide⟩
  obtain ⟨kept, hgives, hkept, -, -, -, hnans, -⟩ := unique_newcomers items
  obtain rfl : kept = [v, .number (.zero true), v] := hkept
  exact ⟨rfl, hnan, hnans 2 v rfl hnan, hgives⟩

end Formula.Builtin.Lists
