import Formula.Proofs.Token.Number
import Formula.Proofs.Token.Quoted

set_option autoImplicit false

/-!
# What one token takes of a text

A token is read from the beginning of a text, of which it takes a stretch. What stands behind it does
not matter any more if it is cut off, or broken off by a blank.

## Main definitions

* `Formula.Lexer.Takes` — a token takes a stretch of a text.

## Main results

* `Formula.Lexer.exists_of_scan` — every token takes a stretch of the text.
* `Formula.Lexer.scan_eq_number_iff` — which texts are read as numbers.
-/

namespace Formula.Lexer

variable {pos stop : Nat} {c : Char} {rest left : List Char} {token : Token}

/-! ## Symbols -/

/-- A symbol of one character is one at the end of a text, too. -/
lemma symbol?_none {next : Option Char} {s : Symbol} (h : symbol? c next = some (s, false)) :
    symbol? c none = some (s, false) := by
  unfold symbol? at h
  split at h <;> cases h <;> rfl

/-- No blank makes a symbol of one character longer.

**Proof sketch.** If the character behind the symbol is no blank, it is the one that was there before.
Otherwise it is a blank, and no symbol of two characters ends with a blank. -/
lemma symbol?_clipped {left' : List Char} {s : Symbol} (h : symbol? c left.head? = some (s, false))
    (hleft : Clipped left left') : symbol? c left'.head? = some (s, false) := by
  cases left' with
  | nil => exact symbol?_none h
  | cons x left' =>
    cases hx : Text.isBlank x with
    | false =>
      obtain ⟨more, rfl, -⟩ := hleft.cons hx
      exact h
    | true =>
      have hne (y : Char) (hy : Text.isBlank y = false) : x ≠ y := by
        rintro rfl
        rw [hx] at hy
        cases hy
      have h := symbol?_none h
      unfold symbol? at h
      split at h <;> cases h
      all_goals
        simp [symbol?, hne '*' rfl, hne '?' rfl, hne '=' rfl, hne '~' rfl, hne '<' rfl, hne '>' rfl,
          hne '&' rfl, hne '|' rfl]

/-- The characters of symbols take one byte each. -/
lemma lt_of_symbol? {next : Option Char} {s : Symbol} {both : Bool}
    (h : symbol? c next = some (s, both)) :
    c.toNat < 128 ∧ (both = true → ∃ x, next = some x ∧ x.toNat < 128) := by
  unfold symbol? at h
  split at h <;> cases h <;> exact ⟨by decide, by simp⟩

/-! ## The first character decides -/

/-- No digit is a quote. -/
lemma not_isQuote_of_isDigit (h : c.isDigit = true) : ¬IsQuote c ∧ c ≠ rawQuote := by
  refine ⟨?_, ?_⟩
  · rintro (rfl | rfl) <;> cases h
  · rintro rfl
    cases h

/-- What begins a word is no quote. -/
lemma not_isQuote_of_isWordStart (h : isWordStart c = true) :
    ¬IsQuote c ∧ c ≠ rawQuote := by
  refine ⟨?_, ?_⟩
  · rintro (rfl | rfl) <;> cases h
  · rintro rfl
    cases h

/-- Where a quote stands, a quoted text is read. -/
lemma scan_of_isQuote (h : IsQuote c) :
    scan pos c rest = (quotedTail c pos (pos + 1) rest).map
      fun r => (.string (String.ofList r.1), r.2) := by
  unfold scan
  rw [if_pos (isQuote_iff.mp h)]
  cases quotedTail c pos (pos + 1) rest <;> rfl

/-- Where a raw quote stands, a raw text is read. -/
lemma scan_rawQuote :
    scan pos rawQuote rest = (rawTail pos (pos + 1) rest).map
      fun r => (.string (String.ofList r.1), r.2) := by
  unfold scan
  rw [if_neg (by decide), if_pos rfl]
  cases rawTail pos (pos + 1) rest <;> rfl

/-- Where a digit stands, a number is read. -/
lemma scan_of_isDigit (h : c.isDigit = true) :
    scan pos c rest = (number pos c rest).map fun r => (r.1, pos + 1 + r.2, rest.drop r.2) := by
  obtain ⟨hquote, hraw⟩ := not_isQuote_of_isDigit h
  unfold scan
  rw [if_neg (mt isQuote_iff.mpr hquote), if_neg hraw, if_pos h]
  cases number pos c rest <;> rfl

/-- Where a word begins, the longest word is read. -/
lemma scan_of_isWordStart (h : isWordStart c = true) :
    scan pos c rest = .ok (word (c :: rest.takeWhile isWordChar),
      pos + 1 + (rest.takeWhile isWordChar).length, rest.dropWhile isWordChar) := by
  obtain ⟨hquote, hraw⟩ := not_isQuote_of_isWordStart h
  unfold scan
  rw [if_neg (mt isQuote_iff.mpr hquote), if_neg hraw, if_neg (by simp [isDigit_of_isWordStart h]),
    if_pos h]
  simp only [drop_length_takeWhile]

/-- What begins a symbol, if anything. -/
def Other (c : Char) : Prop :=
  ¬IsQuote c ∧ c ≠ rawQuote ∧ c.isDigit = false ∧ isWordStart c = false

/-- Where none of these stands, a symbol is read. -/
lemma scan_of_other (h : Other c) :
    scan pos c rest =
      match symbol? c rest.head? with
      | some (s, true) => .ok (.symbol s, pos + 2, rest.drop 1)
      | some (s, false) => .ok (.symbol s, pos + 1, rest)
      | none => .error (.unexpectedChar c pos) := by
  obtain ⟨hquote, hraw, hdigit, hword⟩ := h
  unfold scan
  rw [if_neg (mt isQuote_iff.mpr hquote), if_neg hraw, if_neg (by simp [hdigit])]
  exact if_neg (by simp [hword])

/-- There are five ways for a token to begin.

**Proof sketch.** The quotes are singled out first, then digits and the beginnings of words. -/
lemma other_cases (c : Char) :
    IsQuote c ∨ c = rawQuote ∨ c.isDigit = true ∨ isWordStart c = true ∨ Other c := by
  unfold Other
  by_cases hquote : IsQuote c
  · exact .inl hquote
  · by_cases hraw : c = rawQuote
    · exact .inr (.inl hraw)
    · cases hdigit : c.isDigit <;> cases hword : isWordStart c <;> simp [hquote, hraw]

/-! ## One token -/

/-- A token that begins with `c` takes `more` in front of `left`. It takes the same if the text is cut
off behind it, or broken off there by a blank. -/
structure Takes (pos : Nat) (c : Char) (more left : List Char) (token : Token) (stop : Nat) : Prop where
  stop_eq : stop = pos + String.utf8Len (c :: more)
  scan_eq : ∀ left', Clipped left left' → scan pos c (more ++ left') = .ok (token, stop, left')

/-- A quoted text is read from a stretch that ends with its quote.

**Proof sketch.** Quoted texts are rows of pieces with a quote behind them, whatever follows
(`quotedTail_eq_ok_iff`). So the stretch is what is written of the pieces, and it is read again in front
of any other text. -/
lemma exists_of_scan_quoted (hc : IsQuote c) (h : scan pos c rest = .ok (token, stop, left)) :
    ∃ more, rest = more ++ left ∧ Takes pos c more left token stop := by
  rw [scan_of_isQuote hc] at h
  obtain ⟨⟨out, stop, left⟩, hread, heq⟩ := exists_of_map_eq_ok h
  cases heq
  obtain ⟨pieces, hfits, hout, rfl, rfl⟩ := (quotedTail_eq_ok_iff hc).mp hread
  refine ⟨written pieces ++ [c], by simp, ?_, fun left' _ => ?_⟩
  · rw [String.utf8Len_cons, String.utf8Len_append, String.utf8Len_cons, String.utf8Len_nil,
      hc.utf8Size]
    omega
  · have hsame : quotedTail c pos (pos + 1) (written pieces ++ [c] ++ left') =
        .ok (out, pos + 1 + String.utf8Len (written pieces) + 1, left') :=
      (quotedTail_eq_ok_iff hc).mpr ⟨pieces, hfits, hout, by simp, rfl⟩
    rw [scan_of_isQuote hc, hsame]
    rfl

/-- A raw text is read from a stretch that ends with its quote.

**Proof sketch.** Raw texts are the characters up to the first raw quote, whatever follows
(`rawTail_eq_ok_iff`). -/
lemma exists_of_scan_raw (h : scan pos rawQuote rest = .ok (token, stop, left)) :
    ∃ more, rest = more ++ left ∧ Takes pos rawQuote more left token stop := by
  rw [scan_rawQuote] at h
  obtain ⟨⟨out, stop, left⟩, hread, heq⟩ := exists_of_map_eq_ok h
  cases heq
  obtain ⟨hmem, rfl, rfl⟩ := rawTail_eq_ok_iff.mp hread
  have hsize : rawQuote.utf8Size = 1 := rfl
  refine ⟨out ++ [rawQuote], by simp, ?_, fun left' _ => ?_⟩
  · rw [String.utf8Len_cons, String.utf8Len_append, String.utf8Len_cons, String.utf8Len_nil, hsize]
    omega
  · have hsame : rawTail pos (pos + 1) (out ++ [rawQuote] ++ left') =
        .ok (out, pos + 1 + String.utf8Len out + 1, left') :=
      rawTail_eq_ok_iff.mpr ⟨hmem, by simp, rfl⟩
    rw [scan_rawQuote, hsame]
    rfl

/-- What is read where a digit stands.

**Proof sketch.** What is read is the text of a number in front of what is left (`number_eq_ok_iff`).
Its characters take one byte each, so their number is the distance of the positions. -/
lemma scan_digit_eq_ok_iff (hc : c.isDigit = true) :
    scan pos c rest = .ok (token, stop, left) ↔
      ∃ more x, rest = more ++ left ∧ NumberText (c :: more) left x ∧ token = .number x ∧
        stop = pos + String.utf8Len (c :: more) := by
  rw [scan_of_isDigit hc]
  have hstop {more left : List Char} {x : Double} (hnumber : NumberText (c :: more) left x) :
      pos + 1 + more.length = pos + String.utf8Len (c :: more) := by
    rw [Text.utf8Len_eq_length fun d => hnumber.mem_lt, List.length_cons]
    omega
  constructor
  · intro h
    obtain ⟨⟨token, count⟩, hread, heq⟩ := exists_of_map_eq_ok h
    cases heq
    obtain ⟨more, left, x, rfl, hnumber, rfl, rfl⟩ := (number_eq_ok_iff hc).mp hread
    rw [List.drop_left]
    exact ⟨more, x, rfl, hnumber, rfl, hstop hnumber⟩
  · rintro ⟨more, x, rfl, hnumber, rfl, rfl⟩
    have hread : number pos c (more ++ left) = .ok (.number x, more.length) :=
      (number_eq_ok_iff hc).mpr ⟨more, left, x, rfl, hnumber, rfl, rfl⟩
    rw [hread]
    simp only [Except.map, List.drop_left, hstop hnumber]

/-- A number is read from a stretch that is its text. -/
lemma exists_of_scan_digit (hc : c.isDigit = true) (h : scan pos c rest = .ok (token, stop, left)) :
    ∃ more, rest = more ++ left ∧ Takes pos c more left token stop := by
  obtain ⟨more, x, rfl, hnumber, rfl, rfl⟩ := (scan_digit_eq_ok_iff hc).mp h
  refine ⟨more, rfl, rfl, fun left' hleft => ?_⟩
  exact (scan_digit_eq_ok_iff hc).mpr ⟨more, x, rfl, hnumber.clipped hleft, rfl, rfl⟩

/-- A word is read from the stretch of its characters.

**Proof sketch.** The longest word ends where another character stands or the text does. A blank is no
character of a word, so it ends the same word. The characters take one byte each. -/
lemma exists_of_scan_word (hc : isWordStart c = true)
    (h : scan pos c rest = .ok (token, stop, left)) :
    ∃ more, rest = more ++ left ∧ Takes pos c more left token stop := by
  rw [scan_of_isWordStart hc] at h
  cases h
  obtain ⟨hrest, hword, hleft⟩ := takeWhile_spec isWordChar rest
  refine ⟨rest.takeWhile isWordChar, hrest, ?_, fun left' hclip => ?_⟩
  · have hbytes : ∀ d ∈ c :: rest.takeWhile isWordChar, d.toNat < 128 := fun d hd => by
      have hchar : isWordChar d = true := by
        rcases List.mem_cons.mp hd with rfl | hd
        · exact isWordChar_of_isWordStart hc
        · exact hword d hd
      have hbounds := bounds_of_isWordChar hchar
      omega
    rw [Text.utf8Len_eq_length hbytes, List.length_cons]
    omega
  · obtain ⟨htake, hdrop⟩ := takeWhile_append hword (hclip.head (fun _ => id) hleft)
    rw [scan_of_isWordStart hc, htake, hdrop]

/-- A symbol is read from a stretch of one or two characters.

**Proof sketch.** A symbol of two characters takes them both, whatever follows. A symbol of one
character stays one behind which a blank or nothing stands (`symbol?_clipped`). -/
lemma exists_of_scan_symbol (hc : Other c) (h : scan pos c rest = .ok (token, stop, left)) :
    ∃ more, rest = more ++ left ∧ Takes pos c more left token stop := by
  rw [scan_of_other hc] at h
  split at h
  · next s hsymbol =>
    cases h
    obtain ⟨hbyte, hnext⟩ := lt_of_symbol? hsymbol
    obtain ⟨x, hx, hxbyte⟩ := hnext rfl
    obtain ⟨rest, rfl⟩ := List.head?_eq_some_iff.mp hx
    refine ⟨[x], rfl, ?_, fun left' _ => ?_⟩
    · simp only [String.utf8Len_cons, String.utf8Len_nil, Text.utf8Size_eq_one hbyte,
        Text.utf8Size_eq_one hxbyte]
    · rw [scan_of_other hc, List.singleton_append, List.head?_cons]
      rw [List.head?_cons] at hsymbol
      simp only [hsymbol, List.drop_one, List.tail_cons]
  · next s hsymbol =>
    cases h
    obtain ⟨hbyte, -⟩ := lt_of_symbol? hsymbol
    refine ⟨[], rfl, ?_, fun left' hclip => ?_⟩
    · simp only [String.utf8Len_cons, String.utf8Len_nil, Text.utf8Size_eq_one hbyte]
    · rw [scan_of_other hc, List.nil_append, symbol?_clipped hsymbol hclip]
  · cases h

/-- A token is read from a stretch of the text, whatever its text is clipped to behind it.

**Proof sketch.** One case for each way in which a token begins. -/
theorem exists_of_scan (h : scan pos c rest = .ok (token, stop, left)) :
    ∃ more, rest = more ++ left ∧ Takes pos c more left token stop := by
  rcases other_cases c with hc | rfl | hc | hc | hc
  · exact exists_of_scan_quoted hc h
  · exact exists_of_scan_raw h
  · exact exists_of_scan_digit hc h
  · exact exists_of_scan_word hc h
  · exact exists_of_scan_symbol hc h

/-- No word is a number. -/
lemma word_ne_number (cs : List Char) (x : Double) : word cs ≠ .number x := by
  unfold word
  extract_lets name
  split_ifs <;> exact Token.noConfusion

/-- Only digits begin numbers.

**Proof sketch.** One case for each way in which a token begins. In all of them but one the token is no
number. -/
lemma isDigit_of_scan {x : Double} (h : scan pos c rest = .ok (.number x, stop, left)) :
    c.isDigit = true := by
  rcases other_cases c with hc | rfl | hc | hc | hc
  · rw [scan_of_isQuote hc] at h
    obtain ⟨r, -, heq⟩ := exists_of_map_eq_ok h
    cases heq
  · rw [scan_rawQuote] at h
    obtain ⟨r, -, heq⟩ := exists_of_map_eq_ok h
    cases heq
  · exact hc
  · rw [scan_of_isWordStart hc, Except.ok.injEq, Prod.mk.injEq] at h
    exact absurd h.1 (word_ne_number _ x)
  · rw [scan_of_other hc] at h
    split at h <;> cases h

/-- Which texts are read as numbers.

**Proof sketch.** What is read as a number begins with a digit, and there `scan_digit_eq_ok_iff` says
what is read. -/
theorem scan_eq_number_iff {x : Double} :
    scan pos c rest = .ok (.number x, stop, left) ↔
      ∃ more, rest = more ++ left ∧ NumberText (c :: more) left x ∧
        stop = pos + String.utf8Len (c :: more) := by
  constructor
  · intro h
    obtain ⟨more, y, hrest, hnumber, heq, hstop⟩ := (scan_digit_eq_ok_iff (isDigit_of_scan h)).mp h
    cases heq
    exact ⟨more, hrest, hnumber, hstop⟩
  · rintro ⟨more, hrest, hnumber, hstop⟩
    exact (scan_digit_eq_ok_iff hnumber.isDigit).mpr ⟨more, x, hrest, hnumber, rfl, hstop⟩

end Formula.Lexer
