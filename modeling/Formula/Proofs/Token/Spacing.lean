import Formula.Proofs.Token.Run

set_option autoImplicit false

/-!
# Texts with blanks between them

A text that starts further on has the same tokens and the same error, further on. Two texts with blanks
between them have the tokens of the first and then those of the second: no token of the first text goes
on behind a blank.

## Main definitions

* `Formula.SyntaxError.shift`, `Formula.Lexeme.shift` — the same further on.

## Main results

* `Formula.Lexer.scan_shift` — for one token.
* `Formula.Lexeme.ofCharsFrom_shift` — for all tokens of a text.
* `Formula.Lexeme.ofChars_append_blanks` — the tokens of two texts with blanks between them.
-/

namespace Formula

/-- An error whose position is `d` bytes further on. -/
def SyntaxError.shift (d : Nat) (e : SyntaxError) : SyntaxError :=
  match e with
  | empty => empty
  | unexpectedChar found pos => unexpectedChar found (pos + d)
  | unexpectedToken found pos => unexpectedToken found (pos + d)
  | unexpectedEnd expected => unexpectedEnd expected
  | unclosedString pos => unclosedString (pos + d)
  | invalidEscape pos => invalidEscape (pos + d)
  | invalidNumber text pos => invalidNumber text (pos + d)
  | unknownFunction name pos => unknownFunction name (pos + d)
  | arity name expected found pos => arity name expected found (pos + d)
  | invalidRegex pattern => invalidRegex pattern
  | tooDeep limit pos => tooDeep limit (pos + d)

/-- A token `d` bytes further on. -/
def Lexeme.shift (d : Nat) (t : Lexeme) : Lexeme :=
  ⟨t.token, t.start + d, t.stop + d⟩

namespace Lexer

variable {start pos : Nat} {c : Char} {cs rest : List Char}

/-- The end of a quoted text is read in the same way further on.

**Proof sketch.** Induction along the reading. Each of its cases is decided by the characters alone. -/
lemma quotedTail_shift (quote : Char) (start pos d : Nat) (cs : List Char) :
    quotedTail quote (start + d) (pos + d) cs =
      ((quotedTail quote start pos cs).map fun r => (r.1, r.2.1 + d, r.2.2)).mapError
        (SyntaxError.shift d) := by
  fun_induction quotedTail quote start pos cs with
  | case1 pos =>
    rw [quotedTail.eq_def]
    rfl
  | case2 pos rest =>
    rw [quotedTail.eq_def]
    simp only [if_true, Nat.add_right_comm pos d]
    rfl
  | case3 pos hslash =>
    rw [quotedTail.eq_def]
    simp only [hslash, if_false, if_true]
    rfl
  | case4 pos e rest hescape hslash =>
    rw [quotedTail.eq_def]
    simp only [hslash, if_false, if_true, hescape]
    rfl
  | case5 pos e rest c n hescape err hrest hslash ih
  | case6 pos e rest c n hescape out stop left hrest hslash ih =>
    rw [hrest, show pos + 2 + n + d = pos + d + 2 + n by omega] at ih
    rw [quotedTail.eq_def]
    simp only [hslash, if_false, if_true, hescape, ih]
    rfl
  | case7 pos c rest hc hslash err hrest ih
  | case8 pos c rest hc hslash out stop left hrest ih =>
    rw [hrest, Nat.add_right_comm] at ih
    rw [quotedTail.eq_def]
    simp only [hc, hslash, if_false, ih]
    rfl

/-- The end of a raw text is read in the same way further on.

**Proof sketch.** Induction along the reading, as before. -/
lemma rawTail_shift (start pos d : Nat) (cs : List Char) :
    rawTail (start + d) (pos + d) cs =
      ((rawTail start pos cs).map fun r => (r.1, r.2.1 + d, r.2.2)).mapError
        (SyntaxError.shift d) := by
  fun_induction rawTail start pos cs with
  | case1 pos => rfl
  | case2 pos rest =>
    rw [rawTail, if_pos rfl, Nat.add_right_comm]
    rfl
  | case3 pos c rest hc err hrest ih
  | case4 pos c rest hc out stop left hrest ih =>
    rw [hrest, Nat.add_right_comm] at ih
    rw [rawTail, if_neg hc]
    simp only [ih]
    rfl

/-- A decimal number is read in the same way further on. -/
lemma decimal_shift (pos d : Nat) (cs : List Char) :
    decimal (pos + d) cs = (decimal pos cs).mapError (SyntaxError.shift d) := by
  unfold decimal
  split
  · rfl
  · split <;> rfl

/-- A hexadecimal number is read in the same way further on. -/
lemma hexadecimal_shift (pos d : Nat) (mark cs : List Char) :
    hexadecimal (pos + d) mark cs = (hexadecimal pos mark cs).mapError (SyntaxError.shift d) := by
  unfold hexadecimal
  extract_lets digits n
  split <;> rfl

/-- It does not matter which of a value and an error is changed first. -/
lemma map_mapError {ε ε' α β : Type} (f : α → β) (g : ε → ε') (m : Except ε α) :
    (m.mapError g).map f = (m.map f).mapError g := by
  cases m <;> rfl

/-- A number of either kind is read in the same way further on. -/
lemma number_shift (pos d : Nat) (c : Char) (rest : List Char) :
    number (pos + d) c rest = (number pos c rest).mapError (SyntaxError.shift d) := by
  by_cases hmark : MarksHexadecimal c rest
  · obtain ⟨rfl, mark, digits, rfl, hmark⟩ := hmark
    rw [number_of_marksHexadecimal hmark, number_of_marksHexadecimal hmark, hexadecimal_shift,
      map_mapError]
  · rw [number_of_not_marksHexadecimal hmark, number_of_not_marksHexadecimal hmark, decimal_shift,
      map_mapError]

/-- A token that is read further on is the same token, or the same error, further on.

**Proof sketch.** The first character decides how a token is read, and each of the readers only adds
lengths to the position. -/
theorem scan_shift (pos d : Nat) (c : Char) (rest : List Char) :
    scan (pos + d) c rest =
      ((scan pos c rest).map fun r => (r.1, r.2.1 + d, r.2.2)).mapError (SyntaxError.shift d) := by
  have hone : pos + d + 1 = pos + 1 + d := Nat.add_right_comm pos d 1
  rcases other_cases c with hc | rfl | hc | hc | hc
  · rw [scan_of_isQuote hc, scan_of_isQuote hc, hone, quotedTail_shift]
    cases quotedTail c pos (pos + 1) rest <;> rfl
  · rw [scan_rawQuote, scan_rawQuote, hone, rawTail_shift]
    cases rawTail pos (pos + 1) rest <;> rfl
  · rw [scan_of_isDigit hc, scan_of_isDigit hc, hone, number_shift]
    cases number pos c rest with
    | error _ => rfl
    | ok r => simp only [Except.mapError, Except.map, Nat.add_right_comm _ d r.2]
  · rw [scan_of_isWordStart hc, scan_of_isWordStart hc, hone, Nat.add_right_comm _ d]
    rfl
  · rw [scan_of_other hc, scan_of_other hc]
    split
    · simp only [Except.map, Except.mapError, Nat.add_right_comm pos d 2]
    · simp only [Except.map, Except.mapError, Nat.add_right_comm pos d 1]
    · rfl

end Lexer

/-- The same text further on has the same tokens, or the same error, further on.

**Proof sketch.** Induction along the reading. A blank and a token both move the position on by the same
amount. -/
theorem Lexeme.ofCharsFrom_shift (pos d : Nat) (cs : List Char) :
    ofCharsFrom (pos + d) cs =
      ((ofCharsFrom pos cs).map fun r => (r.1.map (Lexeme.shift d), r.2 + d)).mapError
        (SyntaxError.shift d) := by
  fun_induction ofCharsFrom pos cs with
  | case1 pos =>
    rw [Lexer.ofCharsFrom_nil]
    rfl
  | case2 pos c rest hc ih =>
    rw [Lexer.ofCharsFrom_cons_of_isBlank hc, Nat.add_right_comm, ih]
  | case3 pos c rest hc err hscan =>
    have hshift := Lexer.scan_shift pos d c rest
    rw [hscan] at hshift
    exact Lexer.ofCharsFrom_of_scan_error (Bool.not_eq_true _ ▸ hc) hshift
  | case4 pos c rest hc token stop left hscan err hrest ih
  | case5 pos c rest hc token stop left hscan lexemes last hrest ih =>
    have hshift := Lexer.scan_shift pos d c rest
    rw [hscan] at hshift
    rw [Lexer.ofCharsFrom_of_scan (Bool.not_eq_true _ ▸ hc) hshift, ih, hrest]
    rfl

/-- **The tokens of two texts with blanks between them** are those of the first text and then those of
the second, further on by the bytes of the first text and the blanks. If the second text cannot be split
into tokens, the error is its error, further on likewise.

**Proof sketch.** Reading leads past the tokens of the first text whatever follows a blank. Behind them
are the blanks at its end, the blanks between the texts, and the second text, which only starts further
on. -/
theorem Lexeme.ofChars_append_blanks {a w b : String} {tokens : List Lexeme} {stop : Nat}
    (ha : ofChars a.toList = .ok (tokens, stop)) (hne : w ≠ "")
    (hw : ∀ c ∈ w.toList, Text.isBlank c = true) :
    ofChars (a ++ w ++ b).toList =
      match ofChars b.toList with
      | .ok (more, last) =>
        .ok (tokens ++ more.map (Lexeme.shift (a ++ w).utf8ByteSize), last + (a ++ w).utf8ByteSize)
      | .error e => .error (e.shift (a ++ w).utf8ByteSize) := by
  obtain ⟨last, gap, hreads, hgap, rfl⟩ := Lexer.exists_reads ha
  obtain ⟨used, hused, rfl, hclip⟩ := hreads.clipped
  have hhead : ∀ c ∈ (w.toList ++ b.toList).head?, Text.isBlank c = true := by
    obtain ⟨c, rest, hc⟩ := List.exists_cons_of_ne_nil (mt String.toList_eq_nil_iff.mp hne)
    rintro d hd
    rw [hc] at hd hw
    cases hd
    exact hw c List.mem_cons_self
  have hread := (hclip _ (Lexer.clipped_append gap hhead)).ofCharsFrom_eq
  have hsource : (a ++ w ++ b).toList = used ++ (gap ++ (w.toList ++ b.toList)) := by
    simp only [String.toList_append, hused, List.append_assoc]
  have hsize : (a ++ w).utf8ByteSize =
      0 + String.utf8Len used + String.utf8Len gap + String.utf8Len w.toList := by
    rw [String.utf8ByteSize_append, ← String.utf8Len_toList a, hused, String.utf8Len_append,
      ← String.utf8Len_toList w, Nat.zero_add]
  rw [Lexer.ofCharsFrom_append_of_blanks hgap, Lexer.ofCharsFrom_append_of_blanks hw, ← hsize] at hread
  have hshift := ofCharsFrom_shift 0 (a ++ w).utf8ByteSize b.toList
  rw [Nat.zero_add] at hshift
  rw [hshift] at hread
  rw [ofChars, ofChars, hsource, hread]
  cases ofCharsFrom 0 b.toList <;> rfl

/-- Behind an exclamation mark and a blank of three bytes, `=~` is a token of its own and `=` is none. -/
theorem Lexeme.ofChars_append_blanks_not_match :
    ofChars "'é' !".toList = .ok ([⟨.string "é", 0, 4⟩, ⟨.symbol .not, 5, 6⟩], 6) ∧
    ofChars ("'é' !" ++ "\u2003" ++ "=~ y").toList =
      .ok ([⟨.string "é", 0, 4⟩, ⟨.symbol .not, 5, 6⟩, ⟨.symbol .isMatch, 9, 11⟩,
        ⟨.identifier "y", 12, 13⟩], 13) ∧
    ofChars ("'é' !" ++ "\u2003" ++ "= y").toList = .error (.unexpectedChar '=' 9) := by
  have ha : ofChars "'é' !".toList = .ok ([⟨.string "é", 0, 4⟩, ⟨.symbol .not, 5, 6⟩], 6) := by
    decide +kernel
  have hmatch : ofChars "=~ y".toList =
      .ok ([⟨.symbol .isMatch, 0, 2⟩, ⟨.identifier "y", 3, 4⟩], 4) := by
    decide +kernel
  have hbroken : ofChars "= y".toList = .error (.unexpectedChar '=' 0) := by
    decide +kernel
  have hblank : ∀ c ∈ "\u2003".toList, Text.isBlank c = true := List.forall_mem_singleton.mpr rfl
  refine ⟨ha, ?_, ?_⟩
  · rw [ofChars_append_blanks ha (by decide) hblank, hmatch]
    rfl
  · rw [ofChars_append_blanks ha (by decide) hblank, hbroken]
    rfl

end Formula
