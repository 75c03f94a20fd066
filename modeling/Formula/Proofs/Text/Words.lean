import Formula.Proofs.Text.Search
import Formula.Text.Blank

set_option autoImplicit false

/-!
# Words

The words of a text are its pieces between blanks, without the empty pieces. A blank ends a word wherever it
stands, so words that are joined by spaces are the words of the text that they make up.

## Main results

* `Formula.Text.words_eq` — the words are the pieces that are not empty.
* `Formula.Text.words_append` — the words of a text are those before a blank and those behind it.
* `Formula.Text.words_join` — words that were joined by spaces are found again.
-/

namespace Formula.Text

variable {c : Char} {word cs : List Char} {ws : List (List Char)}

/-! ## Pieces between blanks -/

/-- The stretch being read is put in front of the first piece.

**Proof sketch.** Induction on the text. A blank ends the piece that is being read, and any other
character joins it. -/
lemma wordsFrom_eq (word cs : List Char) :
    wordsFrom word cs = (cs.splitOnPPrepend isBlank word).filter (· ≠ []) := by
  induction cs generalizing word with
  | nil => by_cases h : word = [] <;> simp [wordsFrom, h]
  | cons c rest ih =>
    by_cases hc : isBlank c = true
    · rw [List.splitOnPPrepend_cons_pos hc, wordsFrom, if_pos hc, ih, List.splitOnP_eq_splitOnPPrepend]
      by_cases h : word = [] <;> simp [h]
    · rw [List.splitOnPPrepend_cons_neg (Bool.eq_false_iff.mpr hc), wordsFrom, if_neg hc, ih]

/-- The words of a text are its pieces between blanks, without the empty pieces. -/
lemma words_eq (cs : List Char) : words cs = (cs.splitOnP isBlank).filter (· ≠ []) := by
  rw [words, wordsFrom_eq, List.splitOnP_eq_splitOnPPrepend]

/-- A blank ends a word wherever it stands. -/
lemma words_append (hc : isBlank c = true) (cs ds : List Char) :
    words (cs ++ c :: ds) = words cs ++ words ds := by
  simp only [words_eq]
  rw [List.splitOnP_append_cons cs ds hc, List.filter_append]

/-! ## Words -/

/-- A stretch without blanks that is not empty. -/
def IsWord (word : List Char) : Prop :=
  word ≠ [] ∧ ∀ c ∈ word, isBlank c = false

/-- A word is the only word of its text. -/
lemma words_of_isWord (h : IsWord word) : words word = [word] := by
  rw [words_eq, List.splitOnP_eq_singleton h.2]
  simp [h.1]

/-- Nothing but words is read, as long as no blank is in the stretch being read.

**Proof sketch.** Induction on the text. A blank ends the stretch, which is a word if it is not empty. -/
lemma isWord_of_mem_wordsFrom {stretch : List Char} (hstretch : ∀ c ∈ stretch, isBlank c = false)
    (h : word ∈ wordsFrom stretch cs) : IsWord word := by
  induction cs generalizing stretch with
  | nil =>
    by_cases hs : stretch = []
    · simp [wordsFrom, hs] at h
    · obtain rfl : word = stretch.reverse := by simpa [wordsFrom, hs] using h
      exact ⟨by simpa using hs, by simpa using hstretch⟩
  | cons c rest ih =>
    by_cases hc : isBlank c = true
    · rw [wordsFrom, if_pos hc] at h
      by_cases hs : stretch = []
      · rw [if_pos hs] at h
        exact ih (by simp) h
      · rw [if_neg hs, List.mem_cons] at h
        rcases h with rfl | h
        · exact ⟨by simpa using hs, by simpa using hstretch⟩
        · exact ih (by simp) h
    · rw [wordsFrom, if_neg hc] at h
      have hc' : isBlank c = false := Bool.eq_false_iff.mpr hc
      exact ih (by simpa [hc'] using hstretch) h

/-- The words of a text are words. -/
lemma isWord_of_mem_words (h : word ∈ words cs) : IsWord word :=
  isWord_of_mem_wordsFrom (by simp) h

/-- Words that were joined by spaces are found again.

**Proof sketch.** Induction on the words. -/
lemma words_join (h : ∀ word ∈ ws, IsWord word) : words (join [' '] ws) = ws := by
  induction ws with
  | nil => rfl
  | cons word rest ih =>
    obtain ⟨hword, hrest⟩ := List.forall_mem_cons.mp h
    by_cases hlast : rest = []
    · subst hlast
      exact words_of_isWord hword
    · rw [join_cons _ _ hlast, List.append_assoc, List.singleton_append,
        words_append (by decide), words_of_isWord hword, ih hrest, List.singleton_append]

end Formula.Text
