import Formula.Proofs.Token.Run
import Formula.Proofs.Text.Place

set_option autoImplicit false

/-!
# Where a text is refused

A text that cannot be split into tokens is refused at a place that reading has come to. What stands
there is what the error says: the character that begins no token, the text that is no number, the quote
of a text that is not closed. Only the error for an escape points into a token, to a backslash.

## Main definitions

* `Formula.SyntaxError.pos?` — the position that an error carries.
* `Formula.Lexer.ComesTo` — reading comes to a position, and what stands there.
* `Formula.Lexer.Blames` — what an error says about the text that is refused.

## Main results

* `Formula.Lexer.exists_scan_error` — the token that cannot be read stands where reading has come.
* `Formula.Lexer.blames_of_ofChars` — every error is right about the text.
* `Formula.Lexer.Blames.isValid` — its position is a character boundary.
-/

namespace Formula

/-- The position that an error carries, if it carries one. -/
def SyntaxError.pos? (e : SyntaxError) : Option Nat :=
  match e with
  | unexpectedChar _ pos => some pos
  | unexpectedToken _ pos => some pos
  | unclosedString pos => some pos
  | invalidEscape pos => some pos
  | invalidNumber _ pos => some pos
  | unknownFunction _ pos => some pos
  | arity _ _ _ pos => some pos
  | tooDeep _ pos => some pos
  | empty | unexpectedEnd _ | invalidRegex _ => none

namespace Lexer

variable {source : String} {pos start : Nat} {c quote : Char} {cs rest : List Char}
  {tokens : List Lexeme} {e : SyntaxError}

/-! ## What errors say -/

/-- Reading `source` comes to a position, and `text` stands there. -/
structure ComesTo (source : String) (pos : Nat) (text : List Char) : Prop where
  standsAt : Text.StandsAt source pos text
  reaches : ∃ tokens rest, Reaches source tokens pos (text ++ rest)

/-- What an error says about a text that cannot be split into tokens. The errors of the grammar say
nothing about such a text, and none of them is given for one. -/
def Blames (source : String) (e : SyntaxError) : Prop :=
  match e with
  | .unexpectedChar found pos => ComesTo source pos [found]
  | .invalidNumber text pos =>
    ComesTo source pos text.toList ∧ ∃ c ∈ text.toList.head?, c.isDigit = true
  | .unclosedString pos => ∃ quote, (IsQuote quote ∨ quote = rawQuote) ∧ ComesTo source pos [quote]
  | .invalidEscape pos => Text.StandsAt source pos ['\\'] ∧
    ∃ start quote pieces, IsQuote quote ∧ (∀ p ∈ pieces, p.Fits quote) ∧
      ComesTo source start (quote :: written pieces ++ ['\\']) ∧
      pos = start + String.utf8Len (quote :: written pieces)
  | _ => False

/-! ## Where reading stops -/

namespace Reaches

/-- Reading starts at the beginning. -/
lemma zero (source : String) : Reaches source [] 0 source.toList :=
  ⟨0, [], .nil 0 source.toList, by simp [Blanks], rfl⟩

/-- One more blank. -/
lemma blank (h : Reaches source tokens pos (c :: rest)) (hc : Text.isBlank c = true) :
    Reaches source tokens (pos + c.utf8Size) rest := by
  obtain ⟨last, gap, hreads, hgap, rfl⟩ := h
  refine ⟨last, gap ++ [c], by simpa using hreads, ?_, ?_⟩
  · exact List.forall_mem_append.mpr ⟨hgap, List.forall_mem_singleton.mpr hc⟩
  · rw [String.utf8Len_append, String.utf8Len_cons, String.utf8Len_nil]
    omega

/-- What is left stands where reading has come. -/
lemma standsAt (h : Reaches source tokens pos rest) : Text.StandsAt source pos rest := by
  obtain ⟨last, gap, hreads, -, rfl⟩ := h
  obtain ⟨used, hsource, rfl, -⟩ := hreads.clipped
  refine ⟨used ++ gap, [], ?_, ?_⟩
  · simp only [hsource, List.append_assoc, List.append_nil]
  · rw [String.utf8Len_append, Nat.zero_add]

/-- What stands where reading has come to is come to. -/
lemma comesTo (h : Reaches source tokens pos (cs ++ rest)) : ComesTo source pos cs :=
  ⟨h.standsAt.front, tokens, rest, h⟩

end Reaches

/-- A text that is refused is refused for a token, at the place that reading has come to.

**Proof sketch.** Induction along the reading. Blanks and tokens are passed, up to the token that cannot
be read. -/
theorem exists_scan_error (h : Reaches source tokens pos cs)
    (he : Lexeme.ofCharsFrom pos cs = .error e) :
    ∃ tokens pos c rest, Reaches source tokens pos (c :: rest) ∧ scan pos c rest = .error e := by
  fun_induction Lexeme.ofCharsFrom pos cs generalizing tokens with
  | case1 => cases he
  | case2 pos c rest hc ih => exact ih (h.blank hc) he
  | case3 pos c rest hc err hscan =>
    cases he
    exact ⟨tokens, pos, c, rest, h, hscan⟩
  | case4 pos c rest hc token stop left hscan err hrest ih =>
    exact ih (h.snoc (Bool.not_eq_true _ ▸ hc) hscan) (hrest.trans he)
  | case5 => cases he

/-! ## Texts between quotes -/

/-- An escape that is read is a piece, with the further characters that it takes.

**Proof sketch.** The piece of an escape is not a plain one, so it is a backslash, a letter and single
bytes, as many as are taken. -/
lemma exists_piece_eq_append {d e : Char} {n : Nat} (h : escape? e rest = some (d, n)) :
    ∃ p : Piece, p.Fits quote ∧ '\\' :: e :: rest = p.text ++ rest.drop n ∧
      String.utf8Len p.text = 2 + n := by
  obtain ⟨p, tail, left, rfl, htext, hchar, hfits⟩ := @exists_piece_of_escape? quote _ _ _ _ h
  rcases hfits.cases with ⟨c, rfl, -, -⟩ | ⟨e', tail', htext', hbytes, hescape⟩
  · cases htext
  · rw [htext] at htext'
    cases htext'
    have hn : n = tail.length := by
      rw [hescape left, hchar] at h
      cases h
      rfl
    refine ⟨p, hfits, ?_, ?_⟩
    · rw [hn, List.drop_left, htext]
      rfl
    · rw [Text.utf8Len_eq_length hbytes, htext, hn, List.length_cons, List.length_cons]
      omega

/-- A quoted text is refused for its opening quote, or for a backslash behind some of its pieces.

**Proof sketch.** Induction along the reading. The pieces that are read stand in front of the backslash
that is refused. -/
lemma quotedTail_error (h : quotedTail quote start pos cs = .error e) :
    e = .unclosedString start ∨
      ∃ pieces rest, (∀ p ∈ pieces, p.Fits quote) ∧ cs = written pieces ++ '\\' :: rest ∧
        e = .invalidEscape (pos + String.utf8Len (written pieces)) := by
  -- A piece in front only moves the backslash on.
  have hpiece {p : Piece} {pos n : Nat} {cs : List Char} (hfits : p.Fits quote)
      (hsize : String.utf8Len p.text = n)
      (ih : e = .unclosedString start ∨
        ∃ pieces rest, (∀ p ∈ pieces, p.Fits quote) ∧ cs = written pieces ++ '\\' :: rest ∧
          e = .invalidEscape (pos + n + String.utf8Len (written pieces))) :
      e = .unclosedString start ∨
        ∃ pieces rest, (∀ p ∈ pieces, p.Fits quote) ∧
          p.text ++ cs = written pieces ++ '\\' :: rest ∧
          e = .invalidEscape (pos + String.utf8Len (written pieces)) := by
    rcases ih with rfl | ⟨pieces, rest, hall, rfl, rfl⟩
    · exact .inl rfl
    · refine .inr ⟨p :: pieces, rest, List.forall_mem_cons.mpr ⟨hfits, hall⟩, ?_, ?_⟩
      · rw [written_cons, List.append_assoc]
      · rw [written_cons, String.utf8Len_append, hsize, Nat.add_assoc]
  fun_induction quotedTail quote start pos cs with
  | case1 | case3 =>
    cases h
    exact .inl rfl
  | case2 | case6 | case8 => cases h
  | case4 pos e rest hescape hslash =>
    cases h
    exact .inr ⟨[], e :: rest, by simp, rfl, rfl⟩
  | case5 pos e rest d n hescape err hrest hslash ih =>
    cases h
    obtain ⟨p, hfits, htext, hsize⟩ := @exists_piece_eq_append quote _ _ _ _ hescape
    rw [Nat.add_assoc] at hrest ih
    rw [htext]
    exact hpiece hfits hsize (ih hrest)
  | case7 pos c rest hc hslash err hrest ih =>
    cases h
    exact hpiece (p := .plain c) ⟨hc, hslash⟩ (by simp [Piece.text]) (ih hrest)

/-- A raw text is only refused for its opening quote.

**Proof sketch.** Induction along the reading. -/
lemma rawTail_error (h : rawTail start pos cs = .error e) : e = .unclosedString start := by
  fun_induction rawTail start pos cs with
  | case1 =>
    cases h
    rfl
  | case2 | case4 => cases h
  | case3 pos c rest hc err hrest ih =>
    cases h
    exact ih hrest

/-! ## Numbers -/

/-- What is refused of an exponent begins the text.

**Proof sketch.** It is the letter, with a sign if one follows. -/
lemma exponentChars_error {cut : List Char} (h : exponentChars cs = .error cut) : cut <+: cs := by
  cases cs with
  | nil => cases h
  | cons e rest =>
    rw [exponentChars] at h
    split at h
    · extract_lets sign digits at h
      split at h
      · cases h
        refine (List.prefix_cons_inj e).mpr ?_
        cases rest with
        | nil => exact List.prefix_refl _
        | cons c rest =>
          by_cases hc : (c == '+' || c == '-') = true <;> simp [sign, hc]
      · cases h
    · cases h

/-- The characters that are a number only in part begin the text, with the digits that begin it.

**Proof sketch.** The digits, the places and the exponent are parts of the text that follow each other.
What is refused ends within the exponent, or with the letter that must not follow. -/
lemma decimalChars_error {cut : List Char} (hc : c.isDigit = true)
    (h : decimalChars (c :: rest) = .error cut) : cut ≠ [] ∧ cut <+: c :: rest := by
  unfold decimalChars at h
  extract_lets whole behind places at h
  have hspec : c :: rest = whole ++ behind ∧ (∀ c ∈ whole, c.isDigit = true) ∧
      ∀ c ∈ behind.head?, c.isDigit = false := takeWhile_spec Char.isDigit (c :: rest)
  obtain ⟨hcs, -, hbehind⟩ := hspec
  have hne : whole ≠ [] := by simp [whole, hc]
  have hcut : places = placesChars behind := rfl
  obtain ⟨-, tail, hrest, -⟩ := placesChars_spec hbehind
  rw [← hcut] at hrest
  -- From here on only what is known of the three stretches matters.
  clear_value whole behind places
  have hall : c :: rest = whole ++ places ++ tail := by rw [hcs, hrest, List.append_assoc]
  rw [hrest, List.drop_left] at h
  cases hexponent : exponentChars tail with
  | error cut' =>
    simp only [hexponent] at h
    cases h
    refine ⟨by simp [hne], ?_⟩
    rw [hall]
    exact (List.prefix_append_right_inj _).mpr (exponentChars_error hexponent)
  | ok exponent =>
    obtain ⟨-, left, rfl, -⟩ := exponentChars_of_eq_ok hexponent
    have hall : c :: rest = (whole ++ places ++ exponent) ++ left := by
      rw [hall, List.append_assoc, List.append_assoc, List.append_assoc]
    simp only [hexponent] at h
    rw [hall, List.drop_left] at h
    cases left with
    | nil => cases h
    | cons d left =>
      simp only at h
      split at h
      · cases h
        refine ⟨by simp [hne], left, ?_⟩
        simp only [hall, List.append_assoc, List.singleton_append]
      · cases h

/-- A number is refused with the text of its beginning.

**Proof sketch.** A hexadecimal number is refused with its digits, and a decimal one with the characters
that are a number only in part, or with the whole text of a number that is too great. -/
lemma number_error (hc : c.isDigit = true) (h : number pos c rest = .error e) :
    ∃ cut left, c :: rest = c :: cut ++ left ∧
      e = .invalidNumber (String.ofList (c :: cut)) pos := by
  -- What is not empty and begins the text begins with its first character.
  have hcons {all : List Char} (hne : all ≠ []) (hfront : all <+: c :: rest) :
      ∃ cut left, c :: rest = c :: cut ++ left ∧ all = c :: cut := by
    obtain ⟨d, cut, rfl⟩ := List.exists_cons_of_ne_nil hne
    obtain ⟨left, hleft⟩ := hfront
    obtain ⟨rfl, rfl⟩ := List.cons.inj hleft
    exact ⟨cut, left, rfl, rfl⟩
  by_cases hmark : MarksHexadecimal c rest
  · obtain ⟨rfl, mark, digits, rfl, hmark⟩ := hmark
    rw [number_of_marksHexadecimal hmark] at h
    unfold hexadecimal at h
    extract_lets digits' n at h
    split at h
    · cases h
      refine ⟨mark :: digits', digits.dropWhile Text.isHexDigit, ?_, rfl⟩
      simp only [List.cons_append, digits', List.takeWhile_append_dropWhile]
    · cases h
  · rw [number_of_not_marksHexadecimal hmark] at h
    unfold decimal at h
    split at h
    · next cut hcut =>
      cases h
      obtain ⟨hne, hfront⟩ := decimalChars_error hc hcut
      obtain ⟨cut, left, hrest, rfl⟩ := hcons hne hfront
      exact ⟨cut, left, hrest, rfl⟩
    · next all hall =>
      split at h
      · cases h
      · cases h
        obtain ⟨hshape, left, hcs, -⟩ := decimalChars_of_eq_ok hc hall
        obtain ⟨d, more, hmore, -⟩ := hshape.exists_cons
        obtain ⟨cut, left, hrest, rfl⟩ := hcons (by simp [hmore]) ⟨left, hcs.symm⟩
        exact ⟨cut, left, hrest, rfl⟩

/-! ## Errors are right about the text -/

/-- A token that cannot be read is refused for what stands there.

**Proof sketch.** One case for each kind of first character. Each reader is refused in its own way, and
at a place that has been come to. -/
lemma blames_of_scan_error (h : Reaches source tokens pos (c :: rest))
    (he : scan pos c rest = .error e) : Blames source e := by
  have hopen : ComesTo source pos [c] := @Reaches.comesTo source pos [c] rest tokens h
  rcases other_cases c with hc | rfl | hc | hc | hc
  · rw [scan_of_isQuote hc] at he
    cases hread : quotedTail c pos (pos + 1) rest with
    | ok r => simp [hread, Except.map] at he
    | error err =>
      simp only [hread, Except.map, Except.error.injEq] at he
      subst he
      -- Either the opening quote is to blame, or a backslash behind some pieces.
      rcases quotedTail_error hread with rfl | ⟨pieces, after, hfits, rfl, rfl⟩
      · exact ⟨c, .inl hc, hopen⟩
      · have hstart : Reaches source tokens pos ((c :: written pieces ++ ['\\']) ++ after) := by
          simpa using h
        have hpos : pos + 1 + String.utf8Len (written pieces) =
            pos + String.utf8Len (c :: written pieces) := by
          rw [String.utf8Len_cons, hc.utf8Size]
          omega
        rw [hpos]
        exact ⟨hstart.comesTo.standsAt.behind, pos, c, pieces, hc, hfits, hstart.comesTo, rfl⟩
  · rw [scan_rawQuote] at he
    cases hread : rawTail pos (pos + 1) rest with
    | ok r => simp [hread, Except.map] at he
    | error err =>
      simp only [hread, Except.map, Except.error.injEq] at he
      rw [← he, rawTail_error hread]
      exact ⟨rawQuote, .inr rfl, hopen⟩
  · rw [scan_of_isDigit hc] at he
    cases hread : number pos c rest with
    | ok r => simp [hread, Except.map] at he
    | error err =>
      simp only [hread, Except.map, Except.error.injEq] at he
      obtain ⟨cut, left, hrest, rfl⟩ := number_error hc hread
      rw [hrest] at h
      subst he
      simp only [Blames, String.toList_ofList]
      exact ⟨h.comesTo, c, rfl, hc⟩
  · rw [scan_of_isWordStart hc] at he
    cases he
  · rw [scan_of_other hc] at he
    split at he <;> cases he
    exact hopen

/-- A text that cannot be split into tokens is refused for what stands where reading has come. -/
theorem blames_of_ofChars (h : Lexeme.ofChars source.toList = .error e) : Blames source e := by
  obtain ⟨tokens, pos, c, rest, hreaches, he⟩ := exists_scan_error (.zero source) h
  exact blames_of_scan_error hreaches he

/-- An error points to a character boundary.

**Proof sketch.** One case for each error with a position. -/
lemma Blames.isValid (h : Blames source e) (hpos : e.pos? = some pos) :
    String.Pos.Raw.IsValid source ⟨pos⟩ := by
  cases e <;> cases hpos
  case unexpectedChar => exact h.standsAt.isValid_start
  case unclosedString =>
    obtain ⟨quote, -, hcomes⟩ := h
    exact hcomes.standsAt.isValid_start
  case invalidEscape => exact h.1.isValid_start
  case invalidNumber => exact h.1.standsAt.isValid_start
  all_goals exact h.elim

end Lexer

end Formula
