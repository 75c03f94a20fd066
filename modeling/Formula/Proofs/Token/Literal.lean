import Formula.Proofs.Token.Run

set_option autoImplicit false

/-!
# Texts as literals

What stands between quotes is decoded piece by piece, and every text can be written between quotes.

## Main definitions

* `Formula.Lexer.Piece.ofChar` — how a character is written between quotes.

## Main results

* `Formula.Lexer.ofChars_quoted` — which text a literal is, where a broken one is refused, and that
  every text is one.
-/

namespace Formula.Lexer

variable {quote : Char}

/-- A character between quotes: the quote and the backslash are escaped. -/
def Piece.ofChar (quote c : Char) : Piece :=
  if c = quote ∨ c = '\\' then .letter c c else .plain c

/-- What is written for a character fits between the quotes.

**Proof sketch.** The quote and the backslash are escaped by themselves, and every other character may
stand there. -/
lemma Piece.fits_ofChar (hquote : IsQuote quote) (c : Char) : (Piece.ofChar quote c).Fits quote := by
  unfold ofChar
  split
  · next hc =>
    have hmem : ∀ d ∈ ['"', '\'', '\\'], (d, d) ∈ escapeLetters := by
      simp [escapeLetters]
    apply hmem
    rcases hc with rfl | rfl
    · rcases hquote with rfl | rfl <;> decide
    · decide
  · next hc => exact not_or.mp hc

/-- What is written for a character is read as this character. -/
lemma Piece.char?_ofChar (quote c : Char) : (Piece.ofChar quote c).char? = some c := by
  unfold ofChar
  split <;> rfl

/-- A quote is no blank. -/
lemma IsQuote.isBlank (h : IsQuote quote) : Text.isBlank quote = false := by
  rcases h with rfl | rfl <;> decide

/-- A row of pieces between quotes is one token, the text of their characters.

**Proof sketch.** The pieces are read up to the closing quote, behind which nothing is left. -/
lemma ofChars_written (hquote : IsQuote quote) {pieces : List Piece} {out : List Char}
    (hfits : ∀ p ∈ pieces, p.Fits quote) (hout : pieces.map Piece.char? = out.map some) :
    Lexeme.ofChars (quote :: (written pieces ++ [quote])) =
      .ok ([⟨.string (String.ofList out), 0, String.utf8Len (written pieces) + 2⟩],
        String.utf8Len (written pieces) + 2) := by
  have hread : quotedTail quote 0 1 (written pieces ++ [quote]) =
      .ok (out, 1 + String.utf8Len (written pieces) + 1, []) :=
    (quotedTail_eq_ok_iff hquote).mpr ⟨pieces, hfits, hout, rfl, rfl⟩
  have hscan : scan 0 quote (written pieces ++ [quote]) =
      .ok (.string (String.ofList out), String.utf8Len (written pieces) + 2, []) := by
    rw [scan_of_isQuote hquote, Nat.zero_add, hread]
    simp only [Except.map, Except.ok.injEq, Prod.mk.injEq, true_and, and_true]
    omega
  rw [Lexeme.ofChars, ofCharsFrom_of_scan hquote.isBlank hscan, ofCharsFrom_nil]
  rfl

/-- A row of pieces between quotes is refused where the first piece without a character stands.

**Proof sketch.** The pieces before are read, and the reading stops at the one without a character. -/
lemma ofChars_broken (hquote : IsQuote quote) {before after : List Piece} {bad : Piece}
    (hbefore : ∀ p ∈ before, p.Fits quote ∧ p.char? ≠ none) (hfits : bad.Fits quote)
    (hbad : bad.char? = none) :
    Lexeme.ofChars (quote :: (written (before ++ bad :: after) ++ [quote])) =
      .error (.invalidEscape (1 + String.utf8Len (written before))) := by
  have htext : written (before ++ bad :: after) ++ [quote] =
      written before ++ (bad.text ++ (written after ++ [quote])) := by
    simp only [written, List.flatMap_append, List.flatMap_cons, List.append_assoc]
  have hscan : scan 0 quote (written (before ++ bad :: after) ++ [quote]) =
      .error (.invalidEscape (1 + String.utf8Len (written before))) := by
    rw [scan_of_isQuote hquote, Nat.zero_add, htext,
      quotedTail_of_char?_eq_none hquote hbefore hfits hbad]
    rfl
  rw [Lexeme.ofChars, ofCharsFrom_of_scan_error hquote.isBlank hscan]

/-- A text between raw quotes is one token, this text.

**Proof sketch.** The text is read up to the closing quote, behind which nothing is left. -/
lemma ofChars_raw {s : String} (h : rawQuote ∉ s.toList) :
    Lexeme.ofChars (rawQuote :: (s.toList ++ [rawQuote])) =
      .ok ([⟨.string s, 0, s.utf8ByteSize + 2⟩], s.utf8ByteSize + 2) := by
  have hscan : scan 0 rawQuote (s.toList ++ [rawQuote]) =
      .ok (.string s, s.utf8ByteSize + 2, []) := by
    rw [scan_rawQuote, Nat.zero_add, rawTail_append h, String.utf8Len_toList]
    simp only [Except.map, Except.ok.injEq, Prod.mk.injEq, String.ofList_toList, true_and, and_true]
    omega
  rw [Lexeme.ofChars, ofCharsFrom_of_scan (by decide) hscan, ofCharsFrom_nil]
  rfl

/-- **What stands between quotes is decoded piece by piece.** If each piece stands for a character, the
literal is one token, the text of these characters. Otherwise it is refused where the first piece stands
that has no character. So every text is a literal between quotes of either kind, with quotes and
backslashes escaped, and every text without the raw quote is one between raw quotes.

**Proof sketch.** A piece is read as its character whatever follows it, so a row of pieces is read by
induction, up to the closing quote or a piece without a character. -/
theorem ofChars_quoted (hquote : IsQuote quote) :
    (∀ (pieces : List Piece) (out : List Char), (∀ p ∈ pieces, p.Fits quote) →
      pieces.map Piece.char? = out.map some →
      Lexeme.ofChars (quote :: (written pieces ++ [quote])) =
        .ok ([⟨.string (String.ofList out), 0, String.utf8Len (written pieces) + 2⟩],
          String.utf8Len (written pieces) + 2)) ∧
    (∀ (before : List Piece) (bad : Piece) (after : List Piece),
      (∀ p ∈ before ++ bad :: after, p.Fits quote) → (∀ p ∈ before, p.char? ≠ none) →
      bad.char? = none →
      Lexeme.ofChars (quote :: (written (before ++ bad :: after) ++ [quote])) =
        .error (.invalidEscape (1 + String.utf8Len (written before)))) ∧
    (∀ s : String, ∃ pieces : List Piece, (∀ p ∈ pieces, p.Fits quote) ∧
      Lexeme.ofChars (quote :: (written pieces ++ [quote])) =
        .ok ([⟨.string s, 0, String.utf8Len (written pieces) + 2⟩],
          String.utf8Len (written pieces) + 2)) ∧
    (∀ s : String, rawQuote ∉ s.toList →
      Lexeme.ofChars (rawQuote :: (s.toList ++ [rawQuote])) =
        .ok ([⟨.string s, 0, s.utf8ByteSize + 2⟩], s.utf8ByteSize + 2)) := by
  refine ⟨fun pieces out => ofChars_written hquote, ?_, ?_, fun s => ofChars_raw⟩
  · intro before bad after hfits hbefore hbad
    have hfront : ∀ p ∈ before, p.Fits quote ∧ p.char? ≠ none := fun p hp =>
      ⟨hfits p (List.mem_append_left _ hp), hbefore p hp⟩
    exact ofChars_broken hquote hfront (hfits bad (by simp)) hbad
  · intro s
    have hfits : ∀ p ∈ s.toList.map (Piece.ofChar quote), p.Fits quote := by
      intro p hp
      obtain ⟨c, -, rfl⟩ := List.mem_map.mp hp
      exact Piece.fits_ofChar hquote c
    have hout : (s.toList.map (Piece.ofChar quote)).map Piece.char? = s.toList.map some := by
      rw [List.map_map]
      exact List.map_congr_left fun c _ => Piece.char?_ofChar quote c
    refine ⟨s.toList.map (Piece.ofChar quote), hfits, ?_⟩
    rw [ofChars_written hquote hfits hout, String.ofList_toList]

/-- Both kinds of numbers, an escaped quote, and the number of a surrogate behind a character of two
bytes. -/
theorem ofChars_quoted_surrogate :
    Lexeme.ofChars "\"\\u\x7b1F600\x7d\\u00410\\\"\"".toList =
      .ok ([⟨.string "😀A0\"", 0, 20⟩], 20) ∧
    Lexeme.ofChars "\"é\\uD83D\"".toList = .error (.invalidEscape 3) := by
  obtain ⟨hdecoded, hbroken, -, -⟩ := ofChars_quoted (.inl rfl : IsQuote '"')
  refine ⟨?_, ?_⟩
  · exact hdecoded [.braced ['1', 'F', '6', '0', '0'], .four ['0', '0', '4', '1'], .plain '0',
      .letter '"' '"'] ['😀', 'A', '0', '"'] (by simp [Piece.Fits]; decide) (by decide)
  · exact hbroken [.plain 'é'] (.four ['D', '8', '3', 'D']) [] (by simp [Piece.Fits]; decide) (by decide)
      (by decide)

end Formula.Lexer
