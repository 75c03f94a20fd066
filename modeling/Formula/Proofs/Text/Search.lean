import Formula.Text.Search
import Mathlib.Data.List.Basic
import Mathlib.Data.List.Infix
import Mathlib.Tactic.Lemma

set_option autoImplicit false

/-!
# Cutting, joining and replacing

A text is cut at the first occurrence of a part, then what stands behind it is cut, and so on. Replacing
goes the same way and writes something else where the part was. So to replace is to cut and to join with
what is written instead.

## Main results

* `Formula.Text.cut?_eq_none_iff`, `Formula.Text.append_of_cut?`, `Formula.Text.not_infix_of_cut?` — a text
  is cut at the first occurrence.
* `Formula.Text.join_pieces` — joining the pieces of a text replaces the separator.
* `Formula.Text.join_pieces_self` — joining them with the separator gives the text.
* `Formula.Text.not_infix_of_mem_pieces` — without a limit, no occurrence is left in the pieces.
* `Formula.Text.length_pieces_some`, `Formula.Text.pieces_some_of_length_le` — what a limit does to the
  number of pieces.
-/

namespace Formula.Text

variable {part fresh cs before after piece rest : List Char} {limit : Option Nat} {fuel : Nat}

/-! ## First occurrences -/

attribute [local simp] dropStart?

/-- A prefix is dropped from a text that begins with it.

**Proof sketch.** Induction on the prefix. Its first character has to be the one of the text. -/
lemma dropStart?_eq_some_iff : dropStart? part cs = some rest ↔ cs = part ++ rest := by
  induction part generalizing cs with
  | nil => simp
  | cons a part ih =>
    cases cs with
    | nil => simp
    | cons c cs =>
      by_cases h : a = c
      · simp [h, ih]
      · simp [h, Ne.symm h]

/-- No prefix is dropped from a text that does not begin with it.

**Proof sketch.** This is the negation of the lemma before. -/
lemma dropStart?_eq_none_iff : dropStart? part cs = none ↔ ¬part <+: cs := by
  constructor
  · rintro h ⟨rest, hrest⟩
    rw [dropStart?_eq_some_iff.mpr hrest.symm] at h
    cases h
  · intro h
    rw [Option.eq_none_iff_forall_ne_some]
    intro rest hrest
    exact h ⟨rest, (dropStart?_eq_some_iff.mp hrest).symm⟩

/-- The empty text is cut by nothing but the empty part. -/
lemma cut?_nil : cut? part [] = if part = [] then some ([], []) else none :=
  rfl

/-- A text is cut where it starts with the part. -/
lemma cut?_here {c : Char} (h : c :: cs = part ++ rest) :
    cut? part (c :: cs) = some ([], rest) := by
  rw [cut?, dropStart?_eq_some_iff.mpr h]

/-- Where a text does not start with the part, what follows the first character is cut. -/
lemma cut?_later {c : Char} (h : ¬part <+: c :: cs) :
    cut? part (c :: cs) = (cut? part cs).map fun cut => (c :: cut.1, cut.2) := by
  rw [cut?, dropStart?_eq_none_iff.mpr h]

/-- What stands before the part, the part, and what stands behind it make up the text.

**Proof sketch.** Induction on the text. It is cut where it begins with the part, or else somewhere
behind its first character. -/
lemma append_of_cut? (h : cut? part cs = some (before, after)) : cs = before ++ part ++ after := by
  induction cs generalizing before with
  | nil =>
    by_cases hpart : part = []
    · obtain ⟨rfl, rfl⟩ : [] = before ∧ [] = after := by simpa [cut?_nil, hpart] using h
      simp [hpart]
    · simp [cut?_nil, hpart] at h
  | cons c cs ih =>
    by_cases hstarts : part <+: c :: cs
    · obtain ⟨rest, hrest⟩ := hstarts
      rw [cut?_here hrest.symm] at h
      obtain ⟨rfl, rfl⟩ : [] = before ∧ rest = after := by simpa using h
      exact hrest.symm
    · rw [cut?_later hstarts] at h
      obtain ⟨⟨before', after'⟩, hcut, heq⟩ := Option.map_eq_some_iff.mp h
      obtain ⟨rfl, rfl⟩ : c :: before' = before ∧ after' = after := by simpa using heq
      rw [ih hcut]
      rfl

/-- A text is not cut exactly if the part does not occur in it.

**Proof sketch.** Induction on the text. The part occurs in a text if the text begins with it or if it
occurs behind the first character. -/
lemma cut?_eq_none_iff : cut? part cs = none ↔ ¬part <:+: cs := by
  induction cs with
  | nil => simp [cut?_nil, List.infix_nil]
  | cons c cs ih =>
    rw [List.infix_cons_iff, not_or, ← ih]
    by_cases hstarts : part <+: c :: cs
    · refine iff_of_false ?_ fun h => h.1 hstarts
      obtain ⟨rest, hrest⟩ := hstarts
      rw [cut?_here hrest.symm]
      exact nofun
    · simp [cut?_later hstarts, hstarts]

/-- A part occurs in a text exactly if it is an infix of it. -/
lemma occursIn_eq_true_iff : occursIn part cs = true ↔ part <:+: cs := by
  rw [occursIn, Option.isSome_iff_ne_none, Ne, cut?_eq_none_iff, not_not]

/-- The part does not occur before the place where a text is cut.

**Proof sketch.** Induction on the text. If the part occurred before the cut, it would begin there with
the first character or occur behind it. The former contradicts the cut, and the latter the induction
hypothesis. -/
lemma not_infix_of_cut? (hpart : part ≠ []) (h : cut? part cs = some (before, after)) :
    ¬part <:+: before := by
  induction cs generalizing before with
  | nil => simp [cut?_nil, hpart] at h
  | cons c cs ih =>
    by_cases hstarts : part <+: c :: cs
    · obtain ⟨rest, hrest⟩ := hstarts
      rw [cut?_here hrest.symm] at h
      obtain ⟨rfl, rfl⟩ : [] = before ∧ rest = after := by simpa using h
      simpa [List.infix_nil] using hpart
    · have happend := append_of_cut? h
      rw [cut?_later hstarts] at h
      obtain ⟨⟨before', after'⟩, hcut, heq⟩ := Option.map_eq_some_iff.mp h
      obtain ⟨rfl, rfl⟩ : c :: before' = before ∧ after' = after := by simpa using heq
      rw [List.infix_cons_iff, not_or]
      refine ⟨fun hearlier => hstarts ?_, ih hcut⟩
      rw [happend, List.append_assoc]
      exact hearlier.trans (List.prefix_append _ _)

/-! ## Joining -/

/-- A piece in front of others is joined with what they are joined to. -/
lemma join_cons (fresh piece : List Char) {pieces : List (List Char)} (h : pieces ≠ []) :
    join fresh (piece :: pieces) = piece ++ fresh ++ join fresh pieces := by
  cases pieces with
  | nil => exact absurd rfl h
  | cons next pieces => rfl

/-- Joining is what the library calls `intercalate`.

**Proof sketch.** Induction on the pieces. One piece alone is joined to itself. -/
lemma join_eq_intercalate (fresh : List Char) (pieces : List (List Char)) :
    join fresh pieces = fresh.intercalate pieces := by
  induction pieces with
  | nil => rfl
  | cons piece pieces ih =>
    cases pieces with
    | nil => simp [join]
    | cons next pieces => rw [join_cons _ _ (List.cons_ne_nil _ _), ih]; simp

/-! ## One cut after the other -/

/-- A text that is not cut is one piece. -/
lemma piecesFrom_of_not_cut (h : limit = some 0 ∨ cut? part cs = none) :
    piecesFrom part (fuel + 1) limit cs = [cs] := by
  by_cases hlimit : limit = some 0
  · exact if_pos hlimit
  · refine (if_neg hlimit).trans ?_
    rw [h.resolve_left hlimit]

/-- A text that is cut has one piece in front of the cut, and the pieces of what is behind it. -/
lemma piecesFrom_of_cut (hlimit : limit ≠ some 0) (h : cut? part cs = some (before, after)) :
    piecesFrom part (fuel + 1) limit cs =
      before :: piecesFrom part fuel (limit.map fun n => n - 1) after := by
  refine (if_neg hlimit).trans ?_
  rw [h]

/-- A text that is not cut stays as it is. -/
lemma replaceFrom_of_not_cut (h : limit = some 0 ∨ cut? part cs = none) :
    replaceFrom part fresh (fuel + 1) limit cs = cs := by
  by_cases hlimit : limit = some 0
  · exact if_pos hlimit
  · refine (if_neg hlimit).trans ?_
    rw [h.resolve_left hlimit]

/-- A text that is cut has its first part replaced, and then those of what is behind it. -/
lemma replaceFrom_of_cut (hlimit : limit ≠ some 0) (h : cut? part cs = some (before, after)) :
    replaceFrom part fresh (fuel + 1) limit cs =
      before ++ fresh ++ replaceFrom part fresh fuel (limit.map fun n => n - 1) after := by
  refine (if_neg hlimit).trans ?_
  rw [h]

/-- A text is cut if a limit allows and the part occurs in it, or it is left as it is. -/
lemma not_cut_or_cut (part : List Char) (limit : Option Nat) (cs : List Char) :
    (limit = some 0 ∨ cut? part cs = none) ∨
      limit ≠ some 0 ∧ ∃ before after, cut? part cs = some (before, after) := by
  by_cases hlimit : limit = some 0
  · exact .inl (.inl hlimit)
  · cases h : cut? part cs with
    | none => exact .inl (.inr rfl)
    | some cut => exact .inr ⟨hlimit, cut.1, cut.2, rfl⟩

/-- Every text has a piece.

**Proof sketch.** Whether it is cut or not, there is a piece in front. -/
lemma piecesFrom_ne_nil (part : List Char) (fuel : Nat) (limit : Option Nat) (cs : List Char) :
    piecesFrom part fuel limit cs ≠ [] := by
  cases fuel with
  | zero => exact List.cons_ne_nil _ _
  | succ fuel =>
    rcases not_cut_or_cut part limit cs with h | ⟨hlimit, before, after, h⟩
    · rw [piecesFrom_of_not_cut h]
      exact List.cons_ne_nil _ _
    · rw [piecesFrom_of_cut hlimit h]
      exact List.cons_ne_nil _ _

/-- Cutting and joining go the way that replacing goes.

**Proof sketch.** Induction on the fuel. If the text is cut, both go on behind the cut. -/
lemma join_piecesFrom (part fresh : List Char) (fuel : Nat) (limit : Option Nat) (cs : List Char) :
    join fresh (piecesFrom part fuel limit cs) = replaceFrom part fresh fuel limit cs := by
  induction fuel generalizing limit cs with
  | zero => rfl
  | succ fuel ih =>
    rcases not_cut_or_cut part limit cs with h | ⟨hlimit, before, after, h⟩
    · rw [piecesFrom_of_not_cut h, replaceFrom_of_not_cut h]
      rfl
    · rw [piecesFrom_of_cut hlimit h, replaceFrom_of_cut hlimit h,
        join_cons _ _ (piecesFrom_ne_nil _ _ _ _), ih]

/-- Writing the part where it was changes nothing.

**Proof sketch.** Induction on the fuel. What stands before a cut, the part and what stands behind it
make up the text. -/
lemma replaceFrom_self (part : List Char) (fuel : Nat) (limit : Option Nat) (cs : List Char) :
    replaceFrom part part fuel limit cs = cs := by
  induction fuel generalizing limit cs with
  | zero => rfl
  | succ fuel ih =>
    rcases not_cut_or_cut part limit cs with h | ⟨hlimit, before, after, h⟩
    · exact replaceFrom_of_not_cut h
    · rw [replaceFrom_of_cut hlimit h, ih]
      exact (append_of_cut? h).symm

/-- Without a limit, the part is left in no piece, provided that the fuel is not used up. Every cut takes
a character at least.

**Proof sketch.** Induction on the fuel. The part does not occur before the cut, and it occurs in no
piece of what is behind it. What is not cut does not contain the part. -/
lemma not_infix_of_mem_piecesFrom (hpart : part ≠ []) (hfuel : cs.length < fuel)
    (h : piece ∈ piecesFrom part fuel none cs) : ¬part <:+: piece := by
  induction fuel generalizing cs with
  | zero => exact absurd hfuel (Nat.not_lt_zero _)
  | succ fuel ih =>
    rcases not_cut_or_cut part none cs with hnot | ⟨hlimit, before, after, hcut⟩
    · rw [piecesFrom_of_not_cut hnot, List.mem_singleton] at h
      rw [h]
      exact cut?_eq_none_iff.mp (hnot.resolve_left nofun)
    · rw [piecesFrom_of_cut hlimit hcut] at h
      rcases List.mem_cons.mp h with rfl | h
      · exact not_infix_of_cut? hpart hcut
      · have hlength := congrArg List.length (append_of_cut? hcut)
        have hpos := List.length_pos_iff.mpr hpart
        simp only [List.length_append] at hlength
        exact ih (by omega) h

/-! ## Limits -/

/-- Without a limit a text is cut wherever it can be. -/
lemma piecesFrom_none_of_cut (h : cut? part cs = some (before, after)) :
    piecesFrom part (fuel + 1) none cs = before :: piecesFrom part fuel none after :=
  piecesFrom_of_cut (by simp) h

/-- A limit is one lower behind each cut. -/
lemma piecesFrom_succ_of_cut {n : Nat} (h : cut? part cs = some (before, after)) :
    piecesFrom part (fuel + 1) (some (n + 1)) cs = before :: piecesFrom part fuel (some n) after :=
  piecesFrom_of_cut (by simp) h

/-- With a limit, a text is cut at its first occurrences of the separator, and what stands behind them is the
last piece.

**Proof sketch.** Induction on the fuel. Each cut makes a piece and lowers the limit, and without a
limit left the rest is one piece. -/
lemma length_piecesFrom_some (part : List Char) (fuel n : Nat) (cs : List Char) :
    (piecesFrom part fuel (some n) cs).length =
      min (n + 1) (piecesFrom part fuel none cs).length := by
  induction fuel generalizing n cs with
  | zero => exact (Nat.min_eq_right (Nat.le_add_left 1 n)).symm
  | succ fuel ih =>
    cases hcut : cut? part cs with
    | none =>
      rw [piecesFrom_of_not_cut (.inr hcut), piecesFrom_of_not_cut (.inr hcut)]
      exact (Nat.min_eq_right (Nat.le_add_left 1 n)).symm
    | some cut =>
      rw [piecesFrom_none_of_cut hcut, List.length_cons]
      cases n with
      | zero =>
        rw [piecesFrom_of_not_cut (.inl rfl)]
        exact (Nat.min_eq_left (Nat.le_add_left 1 _)).symm
      | succ n =>
        rw [piecesFrom_succ_of_cut hcut, List.length_cons, Nat.add_min_add_right]
        exact congrArg (· + 1) (ih n cut.2)

/-- A limit that is not reached changes nothing.

**Proof sketch.** Induction on the fuel. A cut makes one piece and lowers the limit by one, so the rest
is within the limit too. -/
lemma piecesFrom_some_of_length_le {n : Nat} (h : (piecesFrom part fuel none cs).length ≤ n + 1) :
    piecesFrom part fuel (some n) cs = piecesFrom part fuel none cs := by
  induction fuel generalizing n cs with
  | zero => rfl
  | succ fuel ih =>
    cases hcut : cut? part cs with
    | none => rw [piecesFrom_of_not_cut (.inr hcut), piecesFrom_of_not_cut (.inr hcut)]
    | some cut =>
      rw [piecesFrom_none_of_cut hcut, List.length_cons] at h
      have hpos := List.length_pos_iff.mpr (piecesFrom_ne_nil part fuel none cut.2)
      obtain ⟨n, rfl⟩ : ∃ m, n = m + 1 := ⟨n - 1, by omega⟩
      rw [piecesFrom_none_of_cut hcut, piecesFrom_succ_of_cut hcut, ih (by omega)]

/-! ## Whole texts -/

/-- Joining the pieces of a text replaces the separator between them. -/
lemma join_pieces (hpart : part ≠ []) (fresh : List Char) (limit : Option Nat) (cs : List Char) :
    join fresh (pieces part limit cs) = replace part fresh limit cs := by
  rw [pieces, join_piecesFrom, replace, if_neg hpart]

/-- Joining the pieces of a text with the separator gives the text. -/
lemma join_pieces_self (part : List Char) (limit : Option Nat) (cs : List Char) :
    join part (pieces part limit cs) = cs := by
  rw [pieces, join_piecesFrom, replaceFrom_self]

/-- Without a limit, the separator occurs in no piece. -/
lemma not_infix_of_mem_pieces (hpart : part ≠ []) (h : piece ∈ pieces part none cs) :
    ¬part <:+: piece :=
  not_infix_of_mem_piecesFrom hpart (Nat.lt_succ_self _) h

/-- With a limit there are no more pieces than it allows for. -/
lemma length_pieces_some (part : List Char) (n : Nat) (cs : List Char) :
    (pieces part (some n) cs).length = min (n + 1) (pieces part none cs).length :=
  length_piecesFrom_some part _ n cs

/-- A limit that leaves room for all pieces changes nothing. -/
lemma pieces_some_of_length_le {n : Nat} (h : (pieces part none cs).length ≤ n + 1) :
    pieces part (some n) cs = pieces part none cs :=
  piecesFrom_some_of_length_le h

/-- Joining the characters of a text with nothing gives the text.

**Proof sketch.** Induction on the text. -/
lemma join_characters (cs : List Char) : join [] (cs.map fun c => [c]) = cs := by
  induction cs with
  | nil => rfl
  | cons c cs ih =>
    cases cs with
    | nil => rfl
    | cons d cs =>
      rw [List.map_cons, join_cons _ _ (by simp), ih]
      rfl

end Formula.Text
