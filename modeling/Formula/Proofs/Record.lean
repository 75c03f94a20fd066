import Formula.Record
import Mathlib.Tactic.Lemma

set_option autoImplicit false

/-!
# Laws of records

An entry that is put into a record is found under its name, and nothing else changes. The order of
names is kept.

## Main results

* `Formula.Record.find?_insert` — what is found in a record with one more entry.
* `Formula.Record.mem_keys` — the names of a record are those under which something is found.
* `Formula.Record.Ordered.insert` — the order of names is kept.
* `Formula.Record.Ordered.ofList_eq` — fields in order are put into a record one behind the other.
* `Formula.Record.Ordered.find?_eq_some_iff` — in a record in order, each entry is found under its name.
* `Formula.Record.Ordered.ext` — records in order with the same entries are the same.
* `Formula.Record.find?_filter`, `Formula.Record.find?_union` — what is found in a part of a record, and in
  two records put together.
-/

namespace Formula.Record

universe u v

variable {α : Type u} {r s : Record α} {field : String × α} {name other : String} {a : α}

/-- The empty record has no names. -/
@[simp] lemma keys_nil : keys ([] : Record α) = [] :=
  rfl

/-- The first name is that of the first field. -/
@[simp] lemma keys_cons (field : String × α) (rest : Record α) :
    keys (field :: rest) = field.1 :: keys rest :=
  rfl

/-- The names of a record are those under which something is found.

**Proof sketch.** Induction on the fields. -/
lemma mem_keys : name ∈ r.keys ↔ ∃ a, r.find? name = some a := by
  induction r with
  | nil => simp [find?]
  | cons field rest ih =>
    obtain ⟨k, b⟩ := field
    by_cases h : k = name
    · simp [find?, h]
    · simp [find?, h, Ne.symm h, ih]

/-- An entry is found under its name, and under other names what was found before.

**Proof sketch.** Induction on the fields. The new field stands in front of the first one, or in its
place, or behind it. -/
lemma find?_insert (r : Record α) (name : String) (a : α) (other : String) :
    (r.insert name a).find? other = if name = other then some a else r.find? other := by
  induction r with
  | nil => rfl
  | cons field rest ih =>
    obtain ⟨k, b⟩ := field
    unfold insert
    split
    · rfl
    · split
      · next h =>
        subst h
        unfold find?
        split <;> rfl
      · next hne =>
        by_cases hk : k = other
        · subst hk
          simp [find?, hne]
        · simp [find?, hk, ih]

/-- The only new name is that of the entry. -/
lemma mem_keys_insert : other ∈ (r.insert name a).keys ↔ name = other ∨ other ∈ r.keys := by
  rw [mem_keys, mem_keys, find?_insert]
  by_cases h : name = other
  · simp [h]
  · simp [h]

/-- The names of a record in order strictly increase. -/
lemma ordered_iff : r.Ordered ↔ r.keys.Pairwise (· < ·) :=
  List.pairwise_map.symm

/-- The order of names is kept.

**Proof sketch.** Induction on the fields. Where the new field is put, the names before it are less and
those behind it greater. -/
lemma Ordered.insert (h : r.Ordered) (name : String) (a : α) : (r.insert name a).Ordered := by
  rw [ordered_iff] at h ⊢
  induction r with
  | nil => simp [Record.insert]
  | cons field rest ih =>
    obtain ⟨k, b⟩ := field
    obtain ⟨hk, hrest⟩ := List.pairwise_cons.mp h
    unfold Record.insert
    split
    · next hlt =>
      refine List.pairwise_cons.mpr ⟨fun other hother => ?_, h⟩
      rcases List.mem_cons.mp hother with rfl | hother
      · exact hlt
      · exact String.lt_trans hlt (hk other hother)
    · next hnlt =>
      split
      · next heq =>
        subst heq
        exact h
      · next hne =>
        -- The names are in a linear order, so the new one is behind the first.
        have hlt : k < name := by
          by_cases hlt : k < name
          · exact hlt
          · exact absurd (String.le_antisymm (String.not_lt.mp hlt) (String.not_lt.mp hnlt)) hne
        refine List.pairwise_cons.mpr ⟨fun other hother => ?_, ih hrest⟩
        rcases mem_keys_insert.mp hother with rfl | hother
        · exact hlt
        · exact hk other hother

/-- An entry with a name behind all others is put at the end. -/
lemma insert_eq_append (h : ∀ k ∈ r.keys, k < name) : r.insert name a = r ++ [(name, a)] := by
  induction r with
  | nil => rfl
  | cons field rest ih =>
    obtain ⟨hk, hrest⟩ := List.forall_mem_cons.mp h
    have hne : name ≠ field.1 := fun heq => String.lt_irrefl name (heq ▸ hk)
    rw [Record.insert, if_neg (String.lt_asymm hk), if_neg hne, ih hrest, List.cons_append]

/-- Fields behind those of a record are put behind them.

**Proof sketch.** Induction on the second record. Its first field is put behind all names of the first
record. -/
lemma Ordered.union_eq_append (h : Ordered (r ++ s)) : r.union s = r ++ s := by
  induction s generalizing r with
  | nil => exact (List.append_nil r).symm
  | cons field rest ih =>
    have hbehind : ∀ k ∈ r.keys, k < field.1 := by
      intro k hk
      obtain ⟨other, hother, rfl⟩ := List.mem_map.mp hk
      exact (List.pairwise_append.mp h).2.2 other hother field List.mem_cons_self
    rw [List.append_cons] at h
    rw [union, List.foldl_cons, insert_eq_append hbehind]
    exact (ih h).trans (List.append_cons ..).symm

/-- The record of fields in order has just these fields. -/
lemma Ordered.ofList_eq (h : r.Ordered) : ofList r = r :=
  Ordered.union_eq_append h

/-! ## What is found in a record in order -/

/-- The first field counts if it has the name, and otherwise the others do. -/
lemma find?_cons (field : String × α) (rest : Record α) (name : String) :
    find? (field :: rest) name = if field.1 = name then some field.2 else find? rest name :=
  rfl

/-- Nothing is found under a name that no field has. -/
lemma find?_eq_none_iff : r.find? name = none ↔ ∀ field ∈ r, field.1 ≠ name := by
  induction r with
  | nil => simp [find?]
  | cons field rest ih =>
    rw [find?_cons, List.forall_mem_cons, ← ih]
    split <;> simp_all

/-- The name of the first field has no further one. -/
lemma Ordered.find?_tail (h : Ordered (field :: r)) : r.find? field.1 = none :=
  find?_eq_none_iff.mpr fun other hother heq =>
    String.lt_irrefl other.1 (heq ▸ (List.pairwise_cons.mp h).1 other hother)

/-- In a record in order, each entry is found under its name.

**Proof sketch.** Induction on the fields. The name of the first one is not among the others. -/
lemma Ordered.find?_eq_some_iff (h : r.Ordered) : r.find? name = some a ↔ (name, a) ∈ r := by
  induction r with
  | nil => simp [find?]
  | cons field rest ih =>
    rw [find?_cons, List.mem_cons, ← ih (List.pairwise_cons.mp h).2]
    split
    · next heq =>
      subst heq
      simp [h.find?_tail, Prod.ext_iff, eq_comm]
    · next hne => simp [Prod.ext_iff, Ne.symm hne]

/-- No field stands twice in a record in order. -/
lemma Ordered.nodup (h : r.Ordered) : r.Nodup := by
  refine h.imp fun {a b} hlt heq => ?_
  subst heq
  exact String.lt_irrefl a.1 hlt

/-- Records in order with the same entries are the same. -/
lemma Ordered.ext (hr : r.Ordered) (hs : s.Ordered) (h : ∀ name, r.find? name = s.find? name) :
    r = s := by
  have hperm : r.Perm s := by
    rw [List.perm_ext_iff_of_nodup hr.nodup hs.nodup]
    rintro ⟨name, a⟩
    rw [← hr.find?_eq_some_iff, ← hs.find?_eq_some_iff, h]
  exact hperm.eq_of_pairwise (fun _ _ _ _ hab hba => absurd hba (String.lt_asymm hab)) hr hs

/-- An entry under a new name makes a record longer by one, and one under a name that is there does not.

**Proof sketch.** Induction on the fields. A name before that of the first field is before all others,
so it is new. -/
lemma Ordered.length_insert (h : r.Ordered) (name : String) (a : α) :
    (r.insert name a).length = if r.contains name then r.length else r.length + 1 := by
  induction r with
  | nil => rfl
  | cons field rest ih =>
    obtain ⟨hbefore, hrest⟩ := List.pairwise_cons.mp h
    rw [contains, Record.insert, find?_cons]
    by_cases hlt : name < field.1
    · -- The name is before all others.
      have hnone : find? rest name = none := find?_eq_none_iff.mpr fun other hother heq =>
        String.lt_asymm hlt (heq ▸ hbefore other hother)
      have hne : field.1 ≠ name := fun heq => String.lt_irrefl name (heq ▸ hlt)
      rw [if_pos hlt, if_neg hne, hnone]
      rfl
    · rw [if_neg hlt]
      by_cases heq : name = field.1
      · rw [if_pos heq, if_pos heq.symm]
        rfl
      · rw [if_neg heq, if_neg (Ne.symm heq), List.length_cons, ih hrest, List.length_cons, contains]
        split <;> rfl

/-- The entries with names of a kind.

**Proof sketch.** Induction on the fields. -/
lemma find?_filter (r : Record α) (p : String → Bool) (name : String) :
    find? (r.filter fun field => p field.1) name = if p name then r.find? name else none := by
  induction r with
  | nil => simp [find?]
  | cons field rest ih =>
    rw [List.filter_cons]
    by_cases heq : field.1 = name
    · subst heq
      by_cases hp : p field.1
      · simp [find?_cons, hp]
      · simp [hp, ih]
    · by_cases hp : p field.1
      · simp [find?_cons, hp, heq, ih]
      · simp [find?_cons, hp, heq, ih]

/-- Of two entries with a name, the one of the second record counts.

**Proof sketch.** Induction on the second record. Its first field is put in, and its name is not among
the others. -/
lemma find?_union (r : Record α) (hs : s.Ordered) (name : String) :
    (r.union s).find? name = (s.find? name).or (r.find? name) := by
  induction s generalizing r with
  | nil => rfl
  | cons field rest ih =>
    refine (ih (r.insert field.1 field.2) (List.pairwise_cons.mp hs).2).trans ?_
    rw [find?_insert, find?_cons]
    by_cases heq : field.1 = name
    · subst heq
      rw [if_pos rfl, if_pos rfl, hs.find?_tail]
      rfl
    · rw [if_neg heq, if_neg heq]

/-- The order of names is kept. -/
lemma Ordered.union (hr : r.Ordered) (s : Record α) : (r.union s).Ordered :=
  List.foldlRecOn s _ hr fun _ h field _ => h.insert field.1 field.2

/-- The fields with names of a kind and the other ones make up the record. -/
lemma Ordered.union_filter (h : r.Ordered) (p : String → Bool) :
    Record.union (r.filter fun field => p field.1 == true) (r.filter fun field => p field.1 == false) =
      r := by
  refine Ordered.ext (Ordered.union (h.filter _) _) h fun name => ?_
  rw [find?_union _ (h.filter _), find?_filter r (p · == false), find?_filter r (p · == true)]
  cases p name <;> simp

/-- What there is for the last item of a list that has something.

**Proof sketch.** The first such item of the reversed list, with what stands before and after it
reversed. -/
lemma findSome?_reverse_eq_some_iff {ι : Type v} {f : ι → Option α} {items : List ι} :
    items.reverse.findSome? f = some a ↔
      ∃ before item after, items = before ++ item :: after ∧ f item = some a ∧
        ∀ later ∈ after, f later = none := by
  rw [List.findSome?_eq_some_iff]
  constructor
  · rintro ⟨after, item, before, hitems, hitem, hafter⟩
    refine ⟨before.reverse, item, after.reverse, ?_, hitem, by simpa using hafter⟩
    simpa using congrArg List.reverse hitems
  · rintro ⟨before, item, after, hitems, hitem, hafter⟩
    exact ⟨after.reverse, item, before.reverse, by simp [hitems], hitem, by simpa using hafter⟩

/-- Of all entries with a name, the one of the last record that has one counts.

**Proof sketch.** Induction on the records. -/
lemma find?_foldl_union (r : Record α) {records : List (Record α)} (h : ∀ s ∈ records, s.Ordered)
    (name : String) :
    (records.foldl union r).find? name =
      (records.reverse.findSome? (·.find? name)).or (r.find? name) := by
  induction records generalizing r with
  | nil => rfl
  | cons s rest ih =>
    obtain ⟨hs, hrest⟩ := List.forall_mem_cons.mp h
    rw [List.foldl_cons, ih _ hrest, find?_union r hs, List.reverse_cons, List.findSome?_append,
      List.findSome?_singleton, Option.or_assoc]

/-- Records that are put together are in order if the first one is. -/
lemma Ordered.foldl_union (hr : r.Ordered) (records : List (Record α)) :
    (records.foldl Record.union r).Ordered :=
  List.foldlRecOn records _ hr fun _ h s _ => h.union s

end Formula.Record
