import Formula.Proofs.Builtin.Sorting
import Mathlib.Data.List.Basic

set_option autoImplicit false

/-!
# The first and the last of given timestamps

The earliest timestamp is searched for from front to back, and gives way to smaller instants only. The latest
one gives way to instants that are as large, too. So of timestamps with one instant at several offsets, the
earliest is the first one, and the latest is the last one. Sorting keeps such timestamps in their order, so
that these two are what it puts at the ends.

## Main definitions

* `Formula.Timestamp.Chosen` — the timestamp of a list at which a search ends.

## Main results

* `Formula.Timestamp.chosen_foldl` — a search ends at such a timestamp.
* `Formula.Timestamp.chosen_head`, `Formula.Timestamp.chosen_last` — so are the ends of the sorted list.
* `Formula.Builtin.Times.earliest_latest_sorted` — `earliest` and `latest` give the ends of the sorted array.
-/

namespace Formula

namespace Timestamp

variable {t u v r r' best : Timestamp} {ts rest front : List Timestamp} {replaces : Ordering → Bool}

/-! ## Instants -/

/-- A timestamp compares as less than another if its instant is earlier. -/
lemma isLT_compare : (t.compare u).isLT = true ↔ t.instant < u.instant := by
  rw [compare, Ordering.isLT_iff_eq_lt, Int.compare_eq_lt]

/-- A timestamp compares as no less than another if its instant is no earlier. -/
lemma isGE_compare : (t.compare u).isGE = true ↔ u.instant ≤ t.instant :=
  Int.isGE_compare

/-- A timestamp compares as no greater than another if its instant is no later. -/
lemma isLE_compare : (t.compare u).isLE = true ↔ t.instant ≤ u.instant :=
  Int.isLE_compare

/-! ## Searches -/

/-- What replaces a timestamp also replaces those that this one has replaced, and those that have not replaced
it. -/
structure Decides (replaces : Ordering → Bool) : Prop where
  of_replaced {t u v : Timestamp} (h : replaces (t.compare u) = true)
    (hu : replaces (u.compare v) = true) : replaces (t.compare v) = true
  of_not_replacing {t u v : Timestamp} (h : replaces (t.compare u) = true)
    (hv : ¬replaces (v.compare u) = true) : replaces (t.compare v) = true

/-- The search for the earliest timestamp holds an earlier one against the one so far.

**Proof sketch.** Both parts are transitivity of the order of instants. -/
lemma decides_isLT : Decides Ordering.isLT where
  of_replaced h hu := by
    rw [isLT_compare] at *
    omega
  of_not_replacing h hv := by
    rw [isLT_compare] at *
    omega

/-- The search for the latest timestamp holds a later or equal one against the one so far.

**Proof sketch.** Both parts are transitivity of the order of instants. -/
lemma decides_isGE : Decides Ordering.isGE where
  of_replaced h hu := by
    rw [isGE_compare] at *
    omega
  of_not_replacing h hv := by
    rw [isGE_compare] at *
    omega

/-- A timestamp of a list that replaces all in front of it, and that none behind it replaces. -/
def Chosen (replaces : Ordering → Bool) (ts : List Timestamp) (r : Timestamp) : Prop :=
  ∃ before after, ts = before ++ r :: after ∧ (∀ u ∈ before, replaces (r.compare u) = true) ∧
    ∀ u ∈ after, ¬replaces (u.compare r) = true

/-- A list does not have two such timestamps.

**Proof sketch.** If the one stood in front of the other, then the later one would replace the earlier
one and would not replace it. -/
lemma Chosen.unique (h : Chosen replaces ts r) (h' : Chosen replaces ts r') : r = r' := by
  obtain ⟨before, after, rfl, hbefore, hafter⟩ := h
  obtain ⟨before', after', heq, hbefore', hafter'⟩ := h'
  rcases List.append_eq_append_iff.mp heq with ⟨between, hfront, hback⟩ | ⟨between, hfront, hback⟩
  · cases between with
    | nil => exact (List.cons.inj hback).1
    | cons t between =>
      obtain ⟨rfl, rfl⟩ := List.cons.inj hback
      exact absurd (hbefore' r (by simp [hfront])) (hafter r' (by simp))
  · cases between with
    | nil => exact (List.cons.inj hback).1.symm
    | cons t between =>
      obtain ⟨rfl, rfl⟩ := List.cons.inj hback
      exact absurd (hbefore r' (by simp [hfront])) (hafter' r (by simp))

/-- One step of a search: the next timestamp is held against the one chosen so far.

**Proof sketch.** If the next one replaces the chosen one, it also replaces all those that this one has
replaced, and those that have not replaced it. Otherwise it is one more that does not. -/
lemma Chosen.step (hdecides : Decides replaces) (h : Chosen replaces ts best) (u : Timestamp) :
    Chosen replaces (ts ++ [u]) (if replaces (u.compare best) then u else best) := by
  obtain ⟨before, after, rfl, hbefore, hafter⟩ := h
  by_cases hu : replaces (u.compare best) = true
  · rw [if_pos hu]
    refine ⟨before ++ best :: after, [], rfl, ?_, by simp⟩
    intro v hv
    rcases List.mem_append.mp hv with hv | hv
    · exact hdecides.of_replaced hu (hbefore v hv)
    · rcases List.mem_cons.mp hv with rfl | hv
      · exact hu
      · exact hdecides.of_not_replacing hu (hafter v hv)
  · rw [if_neg hu]
    refine ⟨before, after ++ [u], by simp, hbefore, ?_⟩
    intro v hv
    rcases List.mem_append.mp hv with hv | hv
    · exact hafter v hv
    · rwa [List.mem_singleton.mp hv]

/-- A search that goes on to the end. -/
lemma Chosen.foldl (hdecides : Decides replaces) (h : Chosen replaces ts best) (rest : List Timestamp) :
    Chosen replaces (ts ++ rest)
      (rest.foldl (fun best u => if replaces (u.compare best) then u else best) best) := by
  induction rest generalizing ts best with
  | nil => rwa [List.append_nil]
  | cons u rest ih =>
    rw [List.append_cons]
    exact ih (h.step hdecides u)

/-- A search ends at such a timestamp. -/
lemma chosen_foldl (hdecides : Decides replaces) (t : Timestamp) (rest : List Timestamp) :
    Chosen replaces (t :: rest)
      (rest.foldl (fun best u => if replaces (u.compare best) then u else best) t) := by
  have hstart : Chosen replaces [t] t := ⟨[], [], rfl, by simp, by simp⟩
  exact hstart.foldl hdecides rest

/-! ## Sorted timestamps -/

/-- The timestamps in the order of their instants. -/
def sorted (ts : List Timestamp) : List Timestamp :=
  ts.mergeSort fun t u => (t.compare u).isLE

/-- The order of timestamps is transitive. -/
lemma isLE_compare_trans (t u v : Timestamp) (h : (t.compare u).isLE = true)
    (hu : (u.compare v).isLE = true) : (t.compare v).isLE = true := by
  rw [isLE_compare] at *
  omega

/-- Of two timestamps one is no later than the other. -/
lemma isLE_compare_total (t u : Timestamp) : ((t.compare u).isLE || (u.compare t).isLE) = true := by
  rw [Bool.or_eq_true, isLE_compare, isLE_compare]
  omega

/-- Sorted timestamps are in the order of their instants. -/
lemma pairwise_sorted (ts : List Timestamp) : (sorted ts).Pairwise fun t u => t.instant ≤ u.instant :=
  (List.pairwise_mergeSort isLE_compare_trans isLE_compare_total ts).imp isLE_compare.mp

/-- Sorting neither adds timestamps nor drops any. -/
lemma mem_sorted : u ∈ sorted ts ↔ u ∈ ts :=
  List.mem_mergeSort

/-- Timestamps with one instant stay in their order. -/
lemma filter_sorted (ts : List Timestamp) (i : Int) :
    ((sorted ts).filter fun u => u.instant == i) = ts.filter fun u => u.instant == i := by
  refine filter_mergeSort isLE_compare_trans isLE_compare_total fun t u ht hu => ?_
  exact isLE_compare.mpr (Int.le_of_eq ((eq_of_beq ht).trans (eq_of_beq hu).symm))

/-- The first one of the sorted timestamps is the first one that has the smallest instant.

**Proof sketch.** No instant is smaller than the one of the first sorted timestamp. Sorting is stable,
so the timestamps with this instant stay in their order, and the first of them is the first sorted one. -/
lemma chosen_head (h : sorted ts = r :: rest) : Chosen Ordering.isLT ts r := by
  have hpairwise := pairwise_sorted ts
  rw [h, List.pairwise_cons] at hpairwise
  have hleast : ∀ u ∈ ts, r.instant ≤ u.instant := by
    intro u hu
    rw [← mem_sorted, h] at hu
    rcases List.mem_cons.mp hu with rfl | hu
    · exact Int.le_refl _
    · exact hpairwise.1 u hu
  have hfilter := filter_sorted ts r.instant
  rw [h, List.filter_cons_of_pos (by simp), eq_comm, List.filter_eq_cons_iff] at hfilter
  obtain ⟨before, after, hts, hbefore, -, -⟩ := hfilter
  refine ⟨before, after, hts, fun u hu => ?_, fun u hu => ?_⟩
  · have hle := hleast u (by simp [hts, hu])
    have hne : u.instant ≠ r.instant := fun heq => hbefore u hu (by simp [heq])
    rw [isLT_compare]
    omega
  · have hle := hleast u (by simp [hts, hu])
    rw [isLT_compare]
    omega

/-- The last one of the sorted timestamps is the last one that has the largest instant.

**Proof sketch.** No instant is greater than the one of the last sorted timestamp. Sorting is stable, so
the timestamps with this instant stay in their order, and the last of them is the last sorted one. -/
lemma chosen_last (h : sorted ts = front ++ [r]) : Chosen Ordering.isGE ts r := by
  have hpairwise := pairwise_sorted ts
  rw [h, List.pairwise_append] at hpairwise
  have hgreatest : ∀ u ∈ ts, u.instant ≤ r.instant := by
    intro u hu
    rw [← mem_sorted, h] at hu
    rcases List.mem_append.mp hu with hu | hu
    · exact hpairwise.2.2 u hu r (List.mem_singleton_self r)
    · exact List.mem_singleton.mp hu ▸ Int.le_refl _
  have hfilter := filter_sorted ts r.instant
  rw [h, List.filter_append, List.filter_cons_of_pos (by simp), List.filter_nil, eq_comm,
    List.filter_eq_append_iff] at hfilter
  obtain ⟨first, second, hts, -, hsecond⟩ := hfilter
  obtain ⟨between, after, rfl, -, -, hafter⟩ := List.filter_eq_cons_iff.mp hsecond
  refine ⟨first ++ between, after, by rw [hts, List.append_assoc], fun u hu => ?_, fun u hu => ?_⟩
  · have hle := hgreatest u (by rw [hts, ← List.append_assoc]; exact List.mem_append_left _ hu)
    rwa [isGE_compare]
  · have hle := hgreatest u (by simp [hts, hu])
    have hne : u.instant ≠ r.instant := fun heq => List.filter_eq_nil_iff.mp hafter u hu (by simp [heq])
    rw [isGE_compare]
    omega

end Timestamp

namespace Builtin.Times

variable {ts : List Timestamp} {r : Timestamp} {replaces : Ordering → Bool}

/-- A timestamp among the arguments is read as itself. -/
lemma timestamp_at {i : Nat} {t : Timestamp} (name : String) (h : ts[i]? = some t) :
    Argument.timestamp name (ts.map .timestamp) i = .ok t := by
  have hget : (ts.map Value.timestamp)[i]? = some (.timestamp t) := by rw [List.getElem?_map, h]; rfl
  rw [Argument.timestamp, Argument.any, hget]
  rfl

/-- Timestamps as arguments are read as themselves. -/
lemma timestamps_eq (name : String) (ts : List Timestamp) :
    timestamps name (ts.map .timestamp) = .ok ts := by
  rw [timestamps, mapM_eq_ok_iff, List.forall₂_iff_get]
  refine ⟨by simp, fun i _ hi => ?_⟩
  simp only [List.get_eq_getElem, List.getElem_range]
  exact timestamp_at name (List.getElem?_eq_getElem hi)

/-- What remains is the timestamp that a search ends at.

**Proof sketch.** The search ends at a timestamp that is chosen (`chosen_foldl`), and there is only one. -/
lemma choose_eq (name : String) (hdecides : Timestamp.Decides replaces)
    (h : Timestamp.Chosen replaces ts r) :
    choose name replaces (ts.map .timestamp) = .ok (.timestamp r) := by
  have hne : ts ≠ [] := by
    obtain ⟨before, after, rfl, -, -⟩ := h
    simp
  obtain ⟨t, rest, rfl⟩ := List.exists_cons_of_ne_nil hne
  rw [choose, timestamps_eq, h.unique (Timestamp.chosen_foldl hdecides t rest)]
  rfl

/-- The functions `earliest` and `latest` accept one argument or more. -/
lemma accepts_of_ne_nil (h : ts ≠ []) :
    (Arity.range 1 none).accepts (ts.map Value.timestamp).length = true := by
  have hpos : 1 ≤ ts.length := List.length_pos_iff.mpr h
  simpa [Arity.accepts] using hpos

/-- The function `sort` puts timestamps in the order of their instants. -/
lemma gives_sort (ts : List Timestamp) :
    Gives "sort" [.array (ts.map .timestamp)] (.ok (.array ((Timestamp.sorted ts).map .timestamp))) := by
  have hsorted : (Timestamp.sorted ts).map Value.timestamp =
      (ts.map Value.timestamp).mergeSort Value.totalLe :=
    List.map_mergeSort fun t _ u _ => rfl
  rw [hsorted]
  exact gives_watching rfl rfl rfl

/-- The function `shift` gives the first of some timestamps. -/
lemma gives_shift (t : Timestamp) (rest : List Timestamp) :
    Gives "shift" [.array ((t :: rest).map .timestamp)] (.ok (.timestamp t)) :=
  gives_plain rfl rfl rfl

/-- The function `pop` gives the last of some timestamps. -/
lemma gives_pop (front : List Timestamp) (t : Timestamp) :
    Gives "pop" [.array ((front ++ [t]).map .timestamp)] (.ok (.timestamp t)) := by
  refine gives_plain rfl rfl ?_
  show Except.ok (((front ++ [t]).map Value.timestamp).getLast?.getD .null) = _
  rw [List.map_append, List.map_singleton, List.getLast?_concat]
  rfl

/-- **The functions `earliest` and `latest` give the ends of the sorted array.** For one timestamp or more,
whatever their offsets are:

1. What `earliest` gives is what `shift` takes from the sorted array, with its offset.
2. What `latest` gives is what `pop` takes from it.
3. The earliest one is the first of the timestamps with the smallest instant.
4. The latest one is the last of those with the largest instant.

**Proof sketch.** At every step of a search, the timestamp chosen so far has replaced those in front of it, and
those behind it have not replaced it. A list has one such timestamp. In the sorted list, those with the same
instant as the first item, or the last one, are in their order, so these items are chosen as well. -/
theorem earliest_latest_sorted (h : ts ≠ []) :
    ∃ (sorted : List Value) (first last : Timestamp),
      Gives "sort" [.array (ts.map .timestamp)] (.ok (.array sorted)) ∧
      Gives "shift" [.array sorted] (.ok (.timestamp first)) ∧
      Gives "earliest" (ts.map .timestamp) (.ok (.timestamp first)) ∧
      Gives "pop" [.array sorted] (.ok (.timestamp last)) ∧
      Gives "latest" (ts.map .timestamp) (.ok (.timestamp last)) ∧
      (∃ before after, ts = before ++ first :: after ∧ (∀ u ∈ before, first.instant < u.instant) ∧
        ∀ u ∈ after, first.instant ≤ u.instant) ∧
      ∃ before after, ts = before ++ last :: after ∧ (∀ u ∈ before, u.instant ≤ last.instant) ∧
        ∀ u ∈ after, u.instant < last.instant := by
  have hsorted : Timestamp.sorted ts ≠ [] :=
    List.ne_nil_of_mem (Timestamp.mem_sorted.mpr (List.head_mem h))
  obtain ⟨first, rest, hfront⟩ := List.exists_cons_of_ne_nil hsorted
  obtain ⟨front, last, hback⟩ := (List.eq_nil_or_concat' _).resolve_left hsorted
  have hfirst := Timestamp.chosen_head hfront
  have hlast := Timestamp.chosen_last hback
  have hshift := gives_shift first rest
  have hpop := gives_pop front last
  rw [← hfront] at hshift
  rw [← hback] at hpop
  refine ⟨_, first, last, gives_sort ts, hshift,
    gives_plain rfl (accepts_of_ne_nil h) (choose_eq "earliest" Timestamp.decides_isLT hfirst), hpop,
    gives_plain rfl (accepts_of_ne_nil h) (choose_eq "latest" Timestamp.decides_isGE hlast), ?_, ?_⟩
  · simpa only [Timestamp.Chosen, Timestamp.isLT_compare, Int.not_lt] using hfirst
  · simpa only [Timestamp.Chosen, Timestamp.isGE_compare, Int.not_le] using hlast

/-- Noon in universal time and an hour later, each at two offsets.

**Proof sketch.** The general theorem gives the first and the last of the sorted timestamps. What
`earliest` and `latest` give is found by evaluation, and a name gives one result only. -/
theorem earliest_latest_sorted_two_offsets :
    let noon (offset : Int) : Timestamp := ⟨⟨19782⟩, 43200, 0, offset, by decide, by decide⟩
    let one (offset : Int) : Timestamp := ⟨⟨19782⟩, 46800, 0, offset, by decide, by decide⟩
    let ts := [one 0, noon 7200, one 3600, noon 0]
    ts ≠ [] ∧
    Gives "earliest" (ts.map .timestamp) (.ok (.timestamp (noon 7200))) ∧
    Gives "latest" (ts.map .timestamp) (.ok (.timestamp (one 3600))) ∧
    ∃ sorted, Gives "sort" [.array (ts.map .timestamp)] (.ok (.array sorted)) ∧
      Gives "shift" [.array sorted] (.ok (.timestamp (noon 7200))) ∧
      Gives "pop" [.array sorted] (.ok (.timestamp (one 3600))) := by
  intro noon one ts
  have hne : ts ≠ [] := List.cons_ne_nil _ _
  obtain ⟨sorted, first, last, hsort, hshift, hearliest, hpop, hlatest, -, -⟩ :=
    earliest_latest_sorted hne
  have hfirst : Gives "earliest" (ts.map .timestamp) (.ok (.timestamp (noon 7200))) :=
    gives_plain rfl rfl (choose_eq "earliest" Timestamp.decides_isLT
      ⟨[one 0], [one 3600, noon 0], rfl, by decide, by decide⟩)
  have hlast : Gives "latest" (ts.map .timestamp) (.ok (.timestamp (one 3600))) :=
    gives_plain rfl rfl (choose_eq "latest" Timestamp.decides_isGE
      ⟨[one 0, noon 7200], [noon 0], rfl, by decide, by decide⟩)
  cases hearliest.unique hfirst
  cases hlatest.unique hlast
  exact ⟨hne, hfirst, hlast, sorted, hsort, hshift, hpop⟩

end Builtin.Times

end Formula
