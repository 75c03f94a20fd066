import Formula.Proofs.Builtin.Calls
import Formula.Proofs.Text.Search
import Formula.Proofs.Value.Bits

set_option autoImplicit false

/-!
# Pieces of texts

To replace occurrences in a text is to split it there and to join the pieces with something else. With
limits, a text is split into one more piece than occurrences are replaced.

## Main results

* `Formula.Builtin.Texts.gives_split`, `Formula.Builtin.Texts.gives_join`,
  `Formula.Builtin.Texts.gives_replace` — what the functions give for texts.
* `Formula.Builtin.Texts.join_split` — the functions `split`, `join` and `replace` agree.
* `Formula.Builtin.Texts.split_limit` — a limit bounds the number of pieces, unless the separator is empty.
-/

namespace Formula.Builtin.Texts

variable {s t f : String} {limit count : Value} {i : Int}

/-! ## Arguments that are texts -/

/-- A text is split at all occurrences of the separator. -/
lemma gives_split (s f : String) :
    Gives "split" [.string s, .string f]
      (.ok (.array ((splitAt f.toList (-1) s.toList).map .ofChars))) :=
  gives_plain rfl rfl rfl

/-- A text is split with the limit that is given. -/
lemma gives_split_limit (h : limit.toInteger "split" = .ok i) :
    Gives "split" [.string s, .string f, limit]
      (.ok (.array ((splitAt f.toList i s.toList).map .ofChars))) := by
  refine gives_plain rfl rfl ?_
  show (limit.toInteger "split" >>= fun i =>
    .ok (Value.array ((splitAt f.toList i s.toList).map .ofChars))) = _
  rw [h]
  rfl

/-- All occurrences of a part are replaced. -/
lemma gives_replace (s f t : String) :
    Gives "replace" [.string s, .string f, .string t]
      (.ok (.ofChars (Text.replace f.toList t.toList none s.toList))) :=
  gives_plain rfl rfl rfl

/-- As many occurrences as a count that is not negative says are replaced.

**Proof sketch.** The count is read as its integer, and only a negative one means all occurrences. -/
lemma gives_replace_count (h : count.toInteger "replace" = .ok i) (hi : 0 ≤ i) :
    Gives "replace" [.string s, .string f, .string t, count]
      (.ok (.ofChars (Text.replace f.toList t.toList (some i.toNat) s.toList))) := by
  refine gives_plain rfl rfl ?_
  show (count.toInteger "replace" >>= fun i => .ok (Value.ofChars
    (Text.replace f.toList t.toList (if i < 0 then none else some i.toNat) s.toList))) = _
  rw [h]
  show Except.ok (Value.ofChars (Text.replace _ _ (if i < 0 then none else some i.toNat) _)) = _
  rw [if_neg (Int.not_lt.mpr hi)]

/-- Texts are shown as they are.

**Proof sketch.** What is joined are the texts themselves, and joining them is joining their characters. -/
lemma gives_join (pieces : List (List Char)) (t : String) :
    Gives "join" [.array (pieces.map .ofChars), .string t]
      (.ok (.ofChars (Text.join t.toList pieces))) := by
  have hdisplay : (pieces.map Value.ofChars).map Value.display = pieces.map String.ofList := by
    rw [List.map_map]
    rfl
  have hintercalate : t.intercalate (pieces.map String.ofList) =
      String.ofList (Text.join t.toList pieces) := by
    rw [← String.toList_inj, String.toList_intercalate, String.toList_ofList,
      Text.join_eq_intercalate, List.map_map]
    simp [Function.comp_def]
  refine gives_watching rfl rfl ?_
  show (Looking.lookAtEach (pieces.map Value.ofChars) >>= fun _ =>
    pure (Value.string (t.intercalate ((pieces.map Value.ofChars).map Value.display)))).result = _
  rw [Looking.result_afterLooks, hdisplay, hintercalate]
  rfl

/-! ## Limits -/

/-- A negative limit is none. -/
lemma splitAt_of_neg {part cs : List Char} (hpart : part ≠ []) (hi : i < 0) :
    splitAt part i cs = Text.pieces part none cs := by
  rw [splitAt, if_neg (by omega), if_neg hpart, if_pos hi]

/-- A positive limit allows for one separator less. -/
lemma splitAt_of_pos {part cs : List Char} (hpart : part ≠ []) (hi : 0 < i) :
    splitAt part i cs = Text.pieces part (some (i.toNat - 1)) cs := by
  rw [splitAt, if_neg (by omega), if_neg hpart, if_neg (by omega)]

/-- **The functions `split`, `join` and `replace` agree.** For every text and every separator that is not
empty:

1. Joining the pieces of the text with something else replaces all occurrences of the separator, which
   occurs in none of the pieces.
2. With a limit of `n + 1` for the pieces, it replaces the first `n` occurrences.
3. Joining the pieces with the separator gives the text, whatever limit there is, if it is not zero.

And joining what the empty separator splits a text into with nothing gives the text.

**Proof sketch.** Splitting and replacing go from one occurrence of the separator to the next in the same
way, and a limit of `n + 1` allows for `n` cuts. What stands around an occurrence and the separator make up
the text. -/
theorem join_split (s : String) :
    (∀ f t : String, f ≠ "" →
      (∃ (pieces : List (List Char)) (replaced : String),
        Gives "split" [.string s, .string f] (.ok (.array (pieces.map .ofChars))) ∧
        Gives "join" [.array (pieces.map .ofChars), .string t] (.ok (.string replaced)) ∧
        Gives "replace" [.string s, .string f, .string t] (.ok (.string replaced)) ∧
        ∀ piece ∈ pieces, ¬f.toList <:+: piece) ∧
      (∀ n : Int, 0 ≤ n → n < 2 ^ 53 - 1 → ∃ (pieces : Value) (replaced : String),
        Gives "split" [.string s, .string f, .ofInt (n + 1)] (.ok pieces) ∧
        Gives "join" [pieces, .string t] (.ok (.string replaced)) ∧
        Gives "replace" [.string s, .string f, .string t, .ofInt n] (.ok (.string replaced))) ∧
      ∀ (limit : Value) (i : Int), limit.toInteger "split" = .ok i → i ≠ 0 → ∃ pieces,
        Gives "split" [.string s, .string f, limit] (.ok pieces) ∧
        Gives "join" [pieces, .string f] (.ok (.string s))) ∧
    ∃ pieces, Gives "split" [.string s, .string ""] (.ok pieces) ∧
      Gives "join" [pieces, .string ""] (.ok (.string s)) := by
  refine ⟨fun f t hf => ?separated, ?characters⟩
  case separated =>
    have hpart : f.toList ≠ [] := fun h => hf (String.toList_eq_nil_iff.mp h)
    refine ⟨?all, ?limited, ?restored⟩
    case all =>
      have hsplit := gives_split s f
      rw [splitAt_of_neg hpart (by decide)] at hsplit
      have hjoin := gives_join (Text.pieces f.toList none s.toList) t
      rw [Text.join_pieces hpart] at hjoin
      exact ⟨_, _, hsplit, hjoin, gives_replace s f t, fun piece => Text.not_infix_of_mem_pieces hpart⟩
    case limited =>
      intro n hn hlt
      have hsplit := gives_split_limit (s := s) (f := f) (Value.toInteger_ofInt (i := n + 1) (by omega))
      rw [splitAt_of_pos hpart (by omega), show (n + 1).toNat - 1 = n.toNat by omega] at hsplit
      have hjoin := gives_join (Text.pieces f.toList (some n.toNat) s.toList) t
      rw [Text.join_pieces hpart] at hjoin
      exact ⟨_, _, hsplit, hjoin, gives_replace_count (Value.toInteger_ofInt (by omega)) hn⟩
    case restored =>
      intro limit i hlimit hi
      have hpieces : ∃ cuts, splitAt f.toList i s.toList = Text.pieces f.toList cuts s.toList := by
        rcases lt_or_gt_of_ne hi with hneg | hpos
        · exact ⟨_, splitAt_of_neg hpart hneg⟩
        · exact ⟨_, splitAt_of_pos hpart hpos⟩
      obtain ⟨cuts, hcuts⟩ := hpieces
      have hsplit := gives_split_limit (s := s) (f := f) hlimit
      have hjoin := gives_join (Text.pieces f.toList cuts s.toList) f
      rw [Text.join_pieces_self, Value.ofChars, String.ofList_toList] at hjoin
      exact ⟨_, hsplit, hcuts ▸ hjoin⟩
  case characters =>
    have hjoin := gives_join (s.toList.map fun c => [c]) ""
    rw [show "".toList = [] from rfl, Text.join_characters, Value.ofChars, String.ofList_toList] at hjoin
    exact ⟨_, gives_split s "", hjoin⟩

/-- A separator that overlaps itself: the first occurrence only, and all of them. -/
theorem join_split_overlapping :
    ("aa" ≠ "" ∧ (Value.ofInt 3).toInteger "split" = .ok 3) ∧
    (∃ pieces, Gives "split" [.string "aaaaa", .string "aa", .ofInt (1 + 1)] (.ok pieces) ∧
      Gives "join" [pieces, .string "é"] (.ok (.string "éaaa"))) ∧
    ∃ pieces, Gives "split" [.string "aaaaa", .string "aa", .ofInt 3] (.ok pieces) ∧
      Gives "join" [pieces, .string "aa"] (.ok (.string "aaaaa")) := by
  have hne : "aa" ≠ "" := by decide
  have hthree : (Value.ofInt 3).toInteger "split" = .ok 3 := Value.toInteger_ofInt (by decide)
  obtain ⟨-, hlimited, hrestored⟩ := (join_split "aaaaa").1 "aa" "é" hne
  obtain ⟨pieces, replaced, hsplit, hjoin, hreplace⟩ := hlimited 1 (by decide) (by decide)
  have hone : Gives "replace" [.string "aaaaa", .string "aa", .string "é", .ofInt 1]
      (.ok (.string "éaaa")) := gives_replace_count (i := 1) (Value.toInteger_ofInt (by decide)) (by decide)
  obtain rfl : replaced = "éaaa" := Value.string.inj (Except.ok.inj (hreplace.unique hone))
  exact ⟨⟨hne, hthree⟩, ⟨pieces, hsplit, hjoin⟩, hrestored (.ofInt 3) 3 hthree (by decide)⟩

/-- Into characters a text is split whatever limit there is, if it is not zero. -/
lemma splitAt_nil {cs : List Char} (hi : i ≠ 0) : splitAt [] i cs = cs.map fun c => [c] := by
  rw [splitAt, if_neg hi, if_pos rfl]

/-- **A limit bounds the number of pieces, unless the separator is empty.** For every text, every
separator and every positive limit there are pieces that the text is split into with the limit, and pieces
that it is split into without one:

1. If there are fewer pieces than the limit allows for, it changes nothing.
2. For a separator that is not empty, there are as many pieces with the limit as without one, or as
   the limit allows for.
3. For the empty separator the limit is passed over: the pieces are the characters.
4. So there are no more pieces than the limit allows for exactly if the separator is not empty or the text
   has no more characters.

**Proof sketch.** A limit of `n + 1` allows for `n` cuts, and each of them leaves one more piece. A text
is only cut where the separator is not empty. -/
theorem split_limit (s f : String) (h : limit.toInteger "split" = .ok i) (hi : 0 < i) :
    ∃ pieces all : List Value,
      Gives "split" [.string s, .string f, limit] (.ok (.array pieces)) ∧
      Gives "split" [.string s, .string f] (.ok (.array all)) ∧
      (pieces.length < i → pieces = all) ∧
      (f ≠ "" → pieces.length = min i all.length) ∧
      (f = "" → pieces = all ∧ all.length = s.length) ∧
      (pieces.length ≤ i ↔ f ≠ "" ∨ s.length ≤ i) := by
  refine ⟨_, _, gives_split_limit h, gives_split s f, ?_⟩
  by_cases hf : f = ""
  · subst hf
    rw [show "".toList = [] from rfl, splitAt_nil (by omega), splitAt_nil (by decide)]
    simp [String.length_toList]
  · have hpart : f.toList ≠ [] := fun h => hf (String.toList_eq_nil_iff.mp h)
    rw [splitAt_of_pos hpart hi, splitAt_of_neg hpart (by decide)]
    have hlength := Text.length_pieces_some f.toList (i.toNat - 1) s.toList
    have hsame := @Text.pieces_some_of_length_le f.toList s.toList (i.toNat - 1)
    simp only [List.length_map, hlength]
    refine ⟨fun hlt => ?_, fun _ => by omega, fun h => absurd h hf, iff_of_true (by omega) (.inl hf)⟩
    rw [hsame (by omega)]

/-- A text with three pieces is split into the two that the limit allows for. -/
theorem split_limit_two_pieces :
    ((Value.ofInt 2).toInteger "split" = .ok 2 ∧ (0 : Int) < 2) ∧
    ∃ pieces : List Value,
      Gives "split" [.string "a,b,ç", .string ",", .ofInt 2] (.ok (.array pieces)) ∧
      pieces.length = 2 := by
  have htwo : (Value.ofInt 2).toInteger "split" = .ok 2 := Value.toInteger_ofInt (by decide)
  obtain ⟨pieces, all, hpieces, hall, -, hcount, -⟩ := split_limit "a,b,ç" "," htwo (by decide)
  have hthree : Gives "split" [.string "a,b,ç", .string ","]
      (.ok (.array [.string "a", .string "b", .string "ç"])) := gives_plain rfl rfl rfl
  obtain rfl : all = [.string "a", .string "b", .string "ç"] :=
    Value.array.inj (Except.ok.inj (hall.unique hthree))
  exact ⟨⟨htwo, by decide⟩, pieces, hpieces, Int.ofNat.inj (hcount (by decide))⟩

/-- It is not so that every positive limit bounds the number of pieces: between three characters a text is
cut twice, although the limit is two pieces. -/
theorem characters_beyond_limit :
    (Value.ofInt 2).toInteger "split" = .ok 2 ∧
    Gives "split" [.string "abc", .string "", .ofInt 2]
      (.ok (.array [.string "a", .string "b", .string "c"])) ∧
    ¬([.string "a", .string "b", .string "c"] : List Value).length ≤ 2 := by
  have htwo : (Value.ofInt 2).toInteger "split" = .ok 2 := Value.toInteger_ofInt (by decide)
  exact ⟨htwo, gives_split_limit htwo, by decide⟩

end Formula.Builtin.Texts
