import Formula.Proofs.Builtin.Calls
import Formula.Proofs.Text.Words
import Formula.Proofs.Value.Bits

set_option autoImplicit false

/-!
# Shortened texts

A text is shortened to so many characters or words, its units, and an ellipsis. The ellipsis has units of its
own: two characters, of which the second one is a word. So a shortened text has more units than it was to
have, and shortening it again cuts off the ellipsis and puts it back.

## Main definitions

* `Formula.Builtin.Texts.Measure.size`, `Formula.Builtin.Texts.Measure.first` — how many units a text has,
  and the text of the first ones.

## Main results

* `Formula.Builtin.Texts.shortened_shortened` — a shortened text is not shortened further.
* `Formula.Builtin.Texts.shorten_cuts` — what `shorten` leaves of a text.
-/

namespace Formula.Builtin.Texts

variable {measure : Measure} {n : Nat} {cs : List Char}

/-! ## Units -/

/-- How many units a text has. -/
def Measure.size (measure : Measure) (cs : List Char) : Nat :=
  match measure with
  | .characters => cs.length
  | .words => (Text.words cs).length

/-- The first units of a text. Words have one space between neighbours. -/
def Measure.first (measure : Measure) (n : Nat) (cs : List Char) : List Char :=
  match measure with
  | .characters => cs.take n
  | .words => Text.join [' '] ((Text.words cs).take n)

/-- A text is cut to its first units if it has more. -/
lemma shortened_eq (measure : Measure) (n : Nat) (cs : List Char) :
    shortened measure n cs =
      if measure.size cs ≤ n then cs else measure.first n cs ++ ellipsis := by
  cases measure <;> rfl

/-- The ellipsis is one more word behind those that are kept. -/
lemma words_cut (n : Nat) (cs : List Char) :
    Text.words (Text.join [' '] ((Text.words cs).take n) ++ ellipsis) =
      (Text.words cs).take n ++ [['…']] := by
  have hkept : ∀ word ∈ (Text.words cs).take n, Text.IsWord word := by
    intro word hword
    exact Text.isWord_of_mem_words (List.mem_of_mem_take hword)
  rw [ellipsis, Text.words_append (by decide), Text.words_join hkept]
  rfl

/-- A text that was cut has more units than it was cut to.

**Proof sketch.** The ellipsis is a character, and a word of its own. -/
lemma lt_size_cut (h : n < measure.size cs) :
    n < measure.size (measure.first n cs ++ ellipsis) := by
  cases measure with
  | characters =>
    simp only [Measure.size, Measure.first] at h ⊢
    simp [ellipsis]
    omega
  | words =>
    simp only [Measure.size, Measure.first] at h ⊢
    rw [words_cut]
    simp
    omega

/-- What is kept of a text is kept of it again.

**Proof sketch.** The first units are `n` in number, since there were more. -/
lemma first_cut (h : n < measure.size cs) :
    measure.first n (measure.first n cs ++ ellipsis) = measure.first n cs := by
  cases measure with
  | characters =>
    have hlength : (cs.take n).length = n := List.length_take_of_le h.le
    simp only [Measure.first]
    rw [List.take_append_of_le_length hlength.ge, List.take_take, Nat.min_self]
  | words =>
    have hlength : ((Text.words cs).take n).length = n := List.length_take_of_le h.le
    simp only [Measure.first]
    rw [words_cut, List.take_append_of_le_length hlength.ge, List.take_take, Nat.min_self]

/-- A shortened text is not shortened further.

**Proof sketch.** A text that is short enough is left as it is. One that was cut is cut again, at the
same place. -/
lemma shortened_shortened (measure : Measure) (n : Nat) (cs : List Char) :
    shortened measure n (shortened measure n cs) = shortened measure n cs := by
  by_cases h : measure.size cs ≤ n
  · have hwhole : shortened measure n cs = cs := by rw [shortened_eq, if_pos h]
    rw [hwhole, hwhole]
  · have hlt := not_le.mp h
    have hcut : shortened measure n cs = measure.first n cs ++ ellipsis := by
      rw [shortened_eq, if_neg h]
    rw [hcut, shortened_eq, if_neg (not_le.mpr (lt_size_cut hlt)), first_cut hlt]

/-! ## The function -/

section Function

variable {mode : String} {count : Value} {c : Int}

/-- A text is shortened in units of the kind that is named. -/
lemma gives_shorten (s : String) (hmode : Measure.ofName? mode = some measure)
    (h : count.toInteger "shorten" = .ok c) :
    Gives "shorten" [.string s, .string mode, count]
      (.ok (.ofChars (shortened measure c.toNat s.toList))) := by
  have hchars : Argument.chars "shorten" [.string s, .string mode, count] 0 = .ok s.toList := rfl
  have hname : Argument.string "shorten" [.string s, .string mode, count] 1 = .ok mode := rfl
  have hcount : Argument.integer "shorten" [.string s, .string mode, count] 2 = .ok c := h
  refine gives_plain rfl rfl ?_
  rw [shorten, hchars, hname, hcount]
  simp only [bind, Except.bind, hmode]
  rfl

/-- What a text is shortened to, in units of either kind.

**Proof sketch.** What the text is shortened to is shortened to itself. -/
lemma exists_shortened (s : String) (hmode : Measure.ofName? mode = some measure)
    (h : count.toInteger "shorten" = .ok c) :
    ∃ r : String,
      Gives "shorten" [.string s, .string mode, count] (.ok (.string r)) ∧
      Gives "shorten" [.string r, .string mode, count] (.ok (.string r)) ∧
      (measure.size s.toList ≤ c.toNat → r = s) ∧
      (c.toNat < measure.size s.toList → r.toList = measure.first c.toNat s.toList ++ ellipsis) := by
  have hagain := gives_shorten (String.ofList (shortened measure c.toNat s.toList)) hmode h
  rw [String.toList_ofList, shortened_shortened] at hagain
  refine ⟨_, gives_shorten s hmode h, hagain, ?_, ?_⟩
  · intro hle
    rw [shortened_eq, if_pos hle, String.ofList_toList]
  · intro hlt
    rw [String.toList_ofList, shortened_eq, if_neg (not_le.mpr hlt)]

/-- **The function `shorten` keeps the first units and adds an ellipsis.** For every text and every count, a
negative one being taken for zero, there are texts to which it is shortened by characters and by words:

1. If it has no more characters than the count, it is the text itself.
2. Otherwise it is so many characters of it, a space and an ellipsis.
3. The same holds of words, the pieces between blanks that are not empty, with one space between neighbours.
4. Both are shortened to themselves.

**Proof sketch.** Two characters, or one word, are added to the units that are kept, so the result is cut
again, behind the same units. -/
theorem shorten_cuts (s : String) (h : count.toInteger "shorten" = .ok c) :
    let k := (max c 0).toNat
    let words := (s.toList.splitOnP Text.isBlank).filter (· ≠ [])
    ∃ byCharacters byWords : String,
      Gives "shorten" [.string s, .string "char", count] (.ok (.string byCharacters)) ∧
      (s.length ≤ k → byCharacters = s) ∧
      (k < s.length → byCharacters.toList = s.toList.take k ++ [' ', '…']) ∧
      Gives "shorten" [.string byCharacters, .string "char", count] (.ok (.string byCharacters)) ∧
      Gives "shorten" [.string s, .string "word", count] (.ok (.string byWords)) ∧
      (words.length ≤ k → byWords = s) ∧
      (k < words.length → byWords.toList = [' '].intercalate (words.take k) ++ [' ', '…']) ∧
      Gives "shorten" [.string byWords, .string "word", count] (.ok (.string byWords)) := by
  intro k words
  have hk : c.toNat = k := by omega
  have hwords : Text.words s.toList = words := Text.words_eq s.toList
  obtain ⟨byCharacters, hgives, hagain, hwhole, hcut⟩ :=
    @exists_shortened .characters "char" count c s rfl h
  obtain ⟨byWords, hgives', hagain', hwhole', hcut'⟩ :=
    @exists_shortened .words "word" count c s rfl h
  simp only [hk, Measure.size, Measure.first, hwords, String.length_toList, Text.join_eq_intercalate]
    at hwhole hcut hwhole' hcut'
  exact ⟨byCharacters, byWords, hgives, hwhole, hcut, hagain, hgives', hwhole', hcut', hagain'⟩

/-- Two of three words that stand between blanks of several kinds. A text of blanks has no words, so that it
is the text itself even if none are to be kept. -/
theorem shorten_cuts_unusual_blanks :
    ((Value.ofInt 2).toInteger "shorten" = .ok 2 ∧ (Value.ofInt (-1)).toInteger "shorten" = .ok (-1)) ∧
    Gives "shorten" [.string "\tα\u3000 βγ\nδ", .string "word", .ofInt 2] (.ok (.string "α βγ …")) ∧
    Gives "shorten" [.string "α βγ …", .string "word", .ofInt 2] (.ok (.string "α βγ …")) ∧
    Gives "shorten" [.string " \n", .string "word", .ofInt (-1)] (.ok (.string " \n")) ∧
    Gives "shorten" [.string " \n", .string "char", .ofInt (-1)] (.ok (.string " …")) := by
  have htwo : (Value.ofInt 2).toInteger "shorten" = .ok 2 := Value.toInteger_ofInt (by decide)
  have hneg : (Value.ofInt (-1)).toInteger "shorten" = .ok (-1) := Value.toInteger_ofInt (by decide)
  obtain ⟨-, byWords, -, -, -, -, hgives, -, hcut, hagain⟩ := shorten_cuts "\tα\u3000 βγ\nδ" htwo
  obtain rfl : byWords = "α βγ …" := String.toList_inj.mp (hcut (by decide))
  obtain ⟨byCharacters, whole, hcharacters, -, hempty, -, hnone, hwhole, -, -⟩ := shorten_cuts " \n" hneg
  obtain rfl : byCharacters = " …" := String.toList_inj.mp (hempty (by decide))
  obtain rfl : whole = " \n" := hwhole (by decide)
  exact ⟨⟨htwo, hneg⟩, hgives, hagain, hnone, hcharacters⟩

end Function

end Formula.Builtin.Texts
