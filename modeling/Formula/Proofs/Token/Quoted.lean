import Formula.Proofs.Token.Following

set_option autoImplicit false

/-!
# Texts between quotes

A quoted text is a row of pieces: plain characters, escapes with a letter, and escapes with the number of
a character. It is read piece by piece, up to the closing quote or the first piece whose number is not
that of a character.

## Main definitions

* `Formula.Lexer.Piece` — a piece of a quoted text, with its written form and its character.
* `Formula.Lexer.Piece.Fits` — a piece may stand between quotes.

## Main results

* `Formula.Lexer.quotedTail_text` — one piece is read.
* `Formula.Lexer.quotedTail_eq_ok_iff` — a text up to the closing quote is read exactly if it is a row
  of pieces, as their characters.
* `Formula.Lexer.quotedTail_of_char?_eq_none` — a piece without a character is refused where it stands.
-/

namespace Formula.Lexer

/-- The escapes with a letter, and what they stand for. -/
def escapeLetters : List (Char × Char) :=
  [('n', '\n'), ('t', '\t'), ('r', '\r'), ('0', '\x00'), ('\\', '\\'), ('"', '"'), ('\'', '\''),
    ('/', '/')]

/-- A piece of a quoted text. -/
inductive Piece where
  | plain (c : Char)
  /-- An escape with the letter `e` for the character `c`. -/
  | letter (e c : Char)
  /-- An escape with four hexadecimal digits. -/
  | four (digits : List Char)
  /-- An escape with hexadecimal digits in braces. -/
  | braced (digits : List Char)

namespace Piece

/-- How a piece is written. -/
def text (p : Piece) : List Char :=
  match p with
  | plain c => [c]
  | letter e _ => ['\\', e]
  | four digits => '\\' :: 'u' :: digits
  | braced digits => '\\' :: 'u' :: '\x7b' :: (digits ++ ['\x7d'])

/-- The character that a piece stands for. Numbers of surrogates, and numbers that are too large, have
none. -/
def char? (p : Piece) : Option Char :=
  match p with
  | plain c => some c
  | letter _ c => some c
  | four digits => Text.charOf? (Text.hexNumber digits)
  | braced digits => Text.charOf? (Text.hexNumber digits)

/-- A piece may stand between quotes. -/
def Fits (quote : Char) (p : Piece) : Prop :=
  match p with
  | plain c => c ≠ quote ∧ c ≠ '\\'
  | letter e c => (e, c) ∈ escapeLetters
  | four digits => digits.length = 4 ∧ ∀ d ∈ digits, Text.isHexDigit d = true
  | braced digits => digits ≠ [] ∧ ∀ d ∈ digits, Text.isHexDigit d = true

end Piece

/-- Whether a text that begins and ends with this character is read with escapes. -/
def IsQuote (quote : Char) : Prop :=
  quote = '"' ∨ quote = '\''

variable {quote : Char} {start pos : Nat} {rest left : List Char} {p : Piece}

/-- The two quotes. -/
lemma isQuote_iff : IsQuote quote ↔ quote = '"' ∨ quote = '\'' :=
  Iff.rfl

/-- A backslash is no quote. -/
lemma IsQuote.ne_backslash (h : IsQuote quote) : '\\' ≠ quote := by
  rcases h with rfl | rfl <;> decide

/-- A quote takes one byte. -/
lemma IsQuote.utf8Size (h : IsQuote quote) : quote.utf8Size = 1 := by
  rcases h with rfl | rfl <;> rfl

/-! ## One piece -/

/-- A letter with an escape is read as what it stands for. -/
lemma escape?_of_mem {e c : Char} (h : (e, c) ∈ escapeLetters) (rest : List Char) :
    escape? e rest = some (c, 0) := by
  simp only [escapeLetters, List.mem_cons, Prod.mk.injEq, List.not_mem_nil, or_false] at h
  rcases h with ⟨rfl, rfl⟩ | ⟨rfl, rfl⟩ | ⟨rfl, rfl⟩ | ⟨rfl, rfl⟩ | ⟨rfl, rfl⟩ | ⟨rfl, rfl⟩ |
    ⟨rfl, rfl⟩ | ⟨rfl, rfl⟩ <;> rfl

/-- Four hexadecimal digits are read as the character with that number.

**Proof sketch.** The first of them is no brace, and exactly four characters are taken. -/
lemma unicodeEscape?_four {digits : List Char} (hlength : digits.length = 4)
    (hdigits : ∀ d ∈ digits, Text.isHexDigit d = true) (rest : List Char) :
    unicodeEscape? (digits ++ rest) =
      (Text.charOf? (Text.hexNumber digits)).map fun c => (c, 4) := by
  obtain ⟨d, digits, rfl⟩ := List.exists_cons_of_length_pos (by omega : 0 < digits.length)
  have hbrace : d ≠ '\x7b' := by
    rintro rfl
    exact absurd (hdigits _ List.mem_cons_self) (by decide)
  have htake : (d :: (digits ++ rest)).take 4 = d :: digits := by
    rw [← List.cons_append, ← hlength, List.take_left]
  rw [List.cons_append, unicodeEscape?]
  · rw [htake, if_pos ⟨hlength, List.all_eq_true.mpr hdigits⟩]
  · exact fun cs heq => hbrace (List.cons.inj heq).1

/-- Hexadecimal digits in braces are read as the character with that number. -/
lemma unicodeEscape?_braced {digits : List Char} (hne : digits ≠ [])
    (hdigits : ∀ d ∈ digits, Text.isHexDigit d = true) (rest : List Char) :
    unicodeEscape? ('\x7b' :: (digits ++ '\x7d' :: rest)) =
      (Text.charOf? (Text.hexNumber digits)).map fun c => (c, digits.length + 2) := by
  have hbrace : ∀ c ∈ ('\x7d' :: rest).head?, Text.isHexDigit c = false := by
    rintro c ⟨⟩
    decide
  have htake := (takeWhile_append hdigits hbrace).1
  simp only [unicodeEscape?, htake, List.drop_left, hne, if_false]

/-- A piece is a plain character, or a backslash and a letter with what goes with it, all of them
characters of one byte.

**Proof sketch.** One case for each kind of piece. The escapes are read by the three lemmas above, and
their characters are letters, digits and braces. -/
lemma Piece.Fits.cases (h : p.Fits quote) :
    (∃ c, p = .plain c ∧ c ≠ quote ∧ c ≠ '\\') ∨
      ∃ e tail, p.text = '\\' :: e :: tail ∧ (∀ c ∈ p.text, c.toNat < 128) ∧
        ∀ rest, escape? e (tail ++ rest) = p.char?.map fun c => (c, tail.length) := by
  have hbytes : ∀ x ∈ escapeLetters, x.1.toNat < 128 := by decide
  cases p with
  | plain c => exact .inl ⟨c, rfl, h⟩
  | letter e c =>
    refine .inr ⟨e, [], rfl, fun d hd => ?_, escape?_of_mem h⟩
    simp only [text, List.mem_cons, List.not_mem_nil, or_false] at hd
    rcases hd with rfl | rfl
    · decide
    · exact hbytes _ h
  | four digits =>
    refine .inr ⟨'u', digits, rfl, fun d hd => ?_, fun rest => ?_⟩
    · simp only [text, List.mem_cons] at hd
      rcases hd with rfl | rfl | hd
      · decide
      · decide
      · exact lt_of_isHexDigit (h.2 d hd)
    · rw [h.1]
      exact unicodeEscape?_four h.1 h.2 rest
  | braced digits =>
    refine .inr ⟨'u', '\x7b' :: (digits ++ ['\x7d']), rfl, fun d hd => ?_, fun rest => ?_⟩
    · simp only [text, List.mem_cons, List.mem_append, List.not_mem_nil, or_false] at hd
      rcases hd with rfl | rfl | rfl | hd | rfl
      · decide
      · decide
      · decide
      · exact lt_of_isHexDigit (h.2 d hd)
      · decide
    · have hread := unicodeEscape?_braced h.1 h.2 rest
      simp only [List.cons_append, List.append_assoc, List.nil_append, List.length_cons,
        List.length_append, List.length_nil]
      exact hread

/-- The closing quote ends the text. -/
lemma quotedTail_quote (hquote : IsQuote quote) :
    quotedTail quote start pos (quote :: left) = .ok ([], pos + 1, left) := by
  rw [quotedTail.eq_def]
  simp only [if_true, hquote.utf8Size]

/-- A plain character stands for itself. -/
lemma quotedTail_plain {c : Char} (hc : c ≠ quote) (hslash : c ≠ '\\') :
    quotedTail quote start pos (c :: rest) =
      (quotedTail quote start (pos + c.utf8Size) rest).map fun r => (c :: r.1, r.2) := by
  rw [quotedTail.eq_def]
  simp only [hc, hslash, if_false]
  cases quotedTail quote start (pos + c.utf8Size) rest <;> rfl

/-- An escape stands for what it is read as, or is refused.

**Proof sketch.** A backslash is no quote, so the text goes on behind it. -/
lemma quotedTail_escape (hquote : IsQuote quote) (e : Char) :
    quotedTail quote start pos ('\\' :: e :: rest) =
      match escape? e rest with
      | none => .error (.invalidEscape pos)
      | some (d, n) =>
        (quotedTail quote start (pos + 2 + n) (rest.drop n)).map fun r => (d :: r.1, r.2) := by
  rw [quotedTail.eq_def]
  simp only [hquote.ne_backslash, if_true, if_false]
  cases escape? e rest with
  | none => rfl
  | some r =>
    obtain ⟨d, n⟩ := r
    simp only
    cases quotedTail quote start (pos + 2 + n) (rest.drop n) <;> rfl

/-- One piece is read, or refused if it stands for no character.

**Proof sketch.** One case for a plain character and one for the escapes. The escapes have as many bytes
as characters, so the text goes on where the piece ends. -/
lemma quotedTail_text (hquote : IsQuote quote) (h : p.Fits quote) :
    quotedTail quote start pos (p.text ++ rest) =
      match p.char? with
      | none => .error (.invalidEscape pos)
      | some d =>
        (quotedTail quote start (pos + String.utf8Len p.text) rest).map fun r => (d :: r.1, r.2) := by
  rcases h.cases with ⟨c, rfl, hc, hslash⟩ | ⟨e, tail, htext, hbytes, hescape⟩
  · rw [Piece.text, List.singleton_append, quotedTail_plain hc hslash, String.utf8Len_cons,
      String.utf8Len_nil, Nat.zero_add]
    rfl
  · have hsize : String.utf8Len p.text = 2 + tail.length := by
      rw [Text.utf8Len_eq_length hbytes, htext, List.length_cons, List.length_cons]
      omega
    rw [hsize, htext, List.cons_append, List.cons_append, quotedTail_escape hquote, hescape rest]
    cases p.char? with
    | none => rfl
    | some d => simp only [Option.map_some, List.drop_left, Nat.add_assoc]

/-! ## Rows of pieces -/

/-- A row of pieces as it is written. -/
def written (pieces : List Piece) : List Char :=
  pieces.flatMap Piece.text

/-- A row of pieces is written one piece after the other. -/
lemma written_cons (p : Piece) (pieces : List Piece) :
    written (p :: pieces) = p.text ++ written pieces :=
  List.flatMap_cons

/-- A row of pieces is read as their characters.

**Proof sketch.** Induction on the pieces. Each is read as its character, and the text goes on behind
it. -/
lemma quotedTail_written (hquote : IsQuote quote) {pieces : List Piece} {out : List Char}
    (hfits : ∀ p ∈ pieces, p.Fits quote) (hout : pieces.map Piece.char? = out.map some) :
    quotedTail quote start pos (written pieces ++ rest) =
      (quotedTail quote start (pos + String.utf8Len (written pieces)) rest).map
        fun r => (out ++ r.1, r.2) := by
  induction pieces generalizing pos out with
  | nil =>
    obtain rfl : out = [] := by simpa using hout.symm
    rw [written, List.flatMap_nil, List.nil_append, String.utf8Len_nil, Nat.add_zero]
    cases quotedTail quote start pos rest <;> rfl
  | cons p pieces ih =>
    cases out with
    | nil => cases hout
    | cons d out =>
      rw [List.map_cons, List.map_cons] at hout
      obtain ⟨hd, hout⟩ := List.cons.inj hout
      rw [written_cons, List.append_assoc, quotedTail_text hquote (hfits p List.mem_cons_self), hd]
      simp only
      rw [ih (fun p hp => hfits p (List.mem_cons_of_mem _ hp)) hout, String.utf8Len_append,
        Nat.add_assoc]
      cases quotedTail quote start (pos + (String.utf8Len p.text + String.utf8Len (written pieces)))
        rest <;> rfl

/-- The number of a character that is read, with its braces, is that of a piece.

**Proof sketch.** With a brace the longest row of digits is taken, and a closing brace has to follow.
Without one, four digits have to follow. Both are pieces. -/
lemma exists_piece_of_unicodeEscape? {d : Char} {n : Nat} (h : unicodeEscape? rest = some (d, n)) :
    ∃ (p : Piece) (tail left : List Char), rest = tail ++ left ∧ p.text = '\\' :: 'u' :: tail ∧
      p.char? = some d ∧ p.Fits quote := by
  unfold unicodeEscape? at h
  split at h
  · next cs =>
    extract_lets digits at h
    have hspec : cs = digits ++ cs.dropWhile Text.isHexDigit ∧
        (∀ d ∈ digits, Text.isHexDigit d = true) ∧ _ := takeWhile_spec Text.isHexDigit cs
    obtain ⟨hcs, hdigits, -⟩ := hspec
    clear_value digits
    split at h
    · next left hleft =>
      split at h
      · cases h
      · next hne =>
        obtain ⟨c, hc, heq⟩ := Option.map_eq_some_iff.mp h
        cases heq
        -- The digits end at the closing brace.
        have hrest : cs = digits ++ '\x7d' :: left := by
          rw [hcs, List.drop_left] at hleft
          rw [hcs, hleft]
        exact ⟨.braced digits, '\x7b' :: (digits ++ ['\x7d']), left, by simp [hrest], rfl, hc, hne,
          hdigits⟩
    · cases h
  · extract_lets digits at h
    split at h
    · next hfour =>
      obtain ⟨c, hc, heq⟩ := Option.map_eq_some_iff.mp h
      cases heq
      exact ⟨.four digits, digits, rest.drop 4, (List.take_append_drop 4 rest).symm, rfl, hc, hfour.1,
        List.all_eq_true.mp hfour.2⟩
    · cases h

/-- The letter of an escape that is read, with what goes with it, is that of a piece.

**Proof sketch.** The letter `u` takes digits with it, and every other letter is in the table. -/
lemma exists_piece_of_escape? {e d : Char} {n : Nat} (h : escape? e rest = some (d, n)) :
    ∃ (p : Piece) (tail left : List Char), rest = tail ++ left ∧ p.text = '\\' :: e :: tail ∧
      p.char? = some d ∧ p.Fits quote := by
  by_cases hu : e = 'u'
  · subst hu
    exact exists_piece_of_unicodeEscape? h
  · have hmem : (e, d) ∈ escapeLetters := by
      unfold escape? at h
      split at h
      case h_9 => contradiction
      all_goals cases h
      all_goals decide
    exact ⟨.letter e d, [], rest, rfl, rfl, rfl, hmem⟩

/-- A piece that begins the text up to the closing quote makes a longer row with the pieces behind it.

**Proof sketch.** The piece has a character, since the text is read, and the rest is read behind it. -/
lemma exists_pieces_of_text (hquote : IsQuote quote) (hfits : p.Fits quote) {out : List Char} {stop : Nat}
    (h : quotedTail quote start pos (p.text ++ rest) = .ok (out, stop, left))
    (hrest : ∀ {pos : Nat} {out : List Char}, quotedTail quote start pos rest = .ok (out, stop, left) →
      ∃ pieces, (∀ p ∈ pieces, p.Fits quote) ∧ pieces.map Piece.char? = out.map some ∧
        rest = written pieces ++ quote :: left) :
    ∃ pieces, (∀ p ∈ pieces, p.Fits quote) ∧ pieces.map Piece.char? = out.map some ∧
      p.text ++ rest = written pieces ++ quote :: left := by
  rw [quotedTail_text hquote hfits] at h
  cases hchar : p.char? with
  | none => simp [hchar] at h
  | some d =>
    simp only [hchar] at h
    obtain ⟨⟨out', stop', left'⟩, hread, heq⟩ := exists_of_map_eq_ok h
    cases heq
    obtain ⟨pieces, hall, hout, rfl⟩ := hrest hread
    refine ⟨p :: pieces, List.forall_mem_cons.mpr ⟨hfits, hall⟩, ?_, ?_⟩
    · rw [List.map_cons, List.map_cons, hchar, hout]
    · rw [written_cons, List.append_assoc]

/-- What is read up to the closing quote is a row of pieces.

**Proof sketch.** Induction on the length of the text. It begins with the quote, with a plain character
or with a backslash. In the first case it ends, and in the others a piece is read, behind which the text
is shorter. -/
lemma exists_pieces_of_quotedTail (hquote : IsQuote quote) {cs out : List Char} {stop : Nat}
    (h : quotedTail quote start pos cs = .ok (out, stop, left)) :
    ∃ pieces, (∀ p ∈ pieces, p.Fits quote) ∧ pieces.map Piece.char? = out.map some ∧
      cs = written pieces ++ quote :: left := by
  induction hlength : cs.length using Nat.strongRecOn generalizing cs pos out with
  | _ n ih =>
    subst hlength
    cases cs with
    | nil =>
      rw [quotedTail.eq_def] at h
      cases h
    | cons c rest =>
      by_cases hc : c = quote
      · subst hc
        rw [quotedTail_quote hquote] at h
        cases h
        exact ⟨[], by simp, rfl, rfl⟩
      · by_cases hslash : c = '\\'
        · subst hslash
          cases rest with
          | nil =>
            rw [quotedTail.eq_def] at h
            simp [hquote.ne_backslash] at h
          | cons e more =>
            have hread := h
            rw [quotedTail_escape hquote] at hread
            cases hescape : escape? e more with
            | none => simp [hescape] at hread
            | some r =>
              -- The escape is a piece, and the text behind it is shorter.
              obtain ⟨d, k⟩ := r
              obtain ⟨p, tail, rest, rfl, htext, -, hfits⟩ := exists_piece_of_escape? hescape
              have hcs : '\\' :: e :: (tail ++ rest) = p.text ++ rest := by rw [htext]; rfl
              rw [hcs] at h ⊢
              refine exists_pieces_of_text hquote hfits h fun hrest => ih _ ?_ hrest rfl
              simp only [List.length_cons, List.length_append]
              omega
        · exact exists_pieces_of_text hquote (p := .plain c) ⟨hc, hslash⟩ h
            fun hrest => ih _ (Nat.lt_succ_self _) hrest rfl

/-- A text up to the closing quote is read exactly if it is a row of pieces, as their characters.

**Proof sketch.** What is read is a row of pieces (`exists_pieces_of_quotedTail`), and such a row is
read as its characters (`quotedTail_written`). -/
theorem quotedTail_eq_ok_iff (hquote : IsQuote quote) {cs out : List Char} {stop : Nat} :
    quotedTail quote start pos cs = .ok (out, stop, left) ↔
      ∃ pieces, (∀ p ∈ pieces, p.Fits quote) ∧ pieces.map Piece.char? = out.map some ∧
        cs = written pieces ++ quote :: left ∧ stop = pos + String.utf8Len (written pieces) + 1 := by
  have hread {pieces : List Piece} (hfits : ∀ p ∈ pieces, p.Fits quote)
      (hout : pieces.map Piece.char? = out.map some) :
      quotedTail quote start pos (written pieces ++ quote :: left) =
        .ok (out, pos + String.utf8Len (written pieces) + 1, left) := by
    rw [quotedTail_written hquote hfits hout, quotedTail_quote hquote]
    simp only [Except.map, List.append_nil]
  constructor
  · intro h
    obtain ⟨pieces, hfits, hout, rfl⟩ := exists_pieces_of_quotedTail hquote h
    rw [hread hfits hout] at h
    cases h
    exact ⟨pieces, hfits, hout, rfl, rfl⟩
  · rintro ⟨pieces, hfits, hout, rfl, rfl⟩
    exact hread hfits hout

/-- Pieces that stand for characters stand for a row of them.

**Proof sketch.** Induction on the pieces. -/
lemma exists_chars {pieces : List Piece} (h : ∀ p ∈ pieces, p.char? ≠ none) :
    ∃ out : List Char, pieces.map Piece.char? = out.map some := by
  induction pieces with
  | nil => exact ⟨[], rfl⟩
  | cons p pieces ih =>
    obtain ⟨d, hd⟩ := Option.ne_none_iff_exists'.mp (h p List.mem_cons_self)
    obtain ⟨out, hout⟩ := ih fun q hq => h q (List.mem_cons_of_mem p hq)
    exact ⟨d :: out, by rw [List.map_cons, List.map_cons, hd, hout]⟩

/-- A piece without a character is refused where it stands. -/
theorem quotedTail_of_char?_eq_none (hquote : IsQuote quote) {before : List Piece} {bad : Piece}
    (hbefore : ∀ p ∈ before, p.Fits quote ∧ p.char? ≠ none) (hfits : bad.Fits quote)
    (hbad : bad.char? = none) :
    quotedTail quote start pos (written before ++ (bad.text ++ rest)) =
      .error (.invalidEscape (pos + String.utf8Len (written before))) := by
  obtain ⟨out, hout⟩ := exists_chars fun p hp => (hbefore p hp).2
  rw [quotedTail_written hquote (fun p hp => (hbefore p hp).1) hout, quotedTail_text hquote hfits,
    hbad]
  rfl

/-! ## Raw texts -/

/-- A text without the raw quote is read up to the quote behind it.

**Proof sketch.** Induction on the text. None of its characters is the quote, so each of them is taken. -/
lemma rawTail_append {out : List Char} (h : rawQuote ∉ out) :
    rawTail start pos (out ++ rawQuote :: left) =
      .ok (out, pos + String.utf8Len out + 1, left) := by
  induction out generalizing pos with
  | nil =>
    rw [List.nil_append, rawTail, if_pos rfl]
    rfl
  | cons c out ih =>
    obtain ⟨hc, hout⟩ := not_or.mp (mt List.mem_cons.mpr h)
    rw [List.cons_append, rawTail, if_neg (Ne.symm hc), ih hout, String.utf8Len_cons]
    simp only [Except.ok.injEq, Prod.mk.injEq, true_and, and_true]
    omega

/-- What is read up to the closing raw quote has no raw quote in it.

**Proof sketch.** Induction on the text. It begins with the quote and ends there, or its first character
is taken. -/
lemma exists_of_rawTail {cs out : List Char} {stop : Nat}
    (h : rawTail start pos cs = .ok (out, stop, left)) :
    rawQuote ∉ out ∧ cs = out ++ rawQuote :: left := by
  induction cs generalizing pos out stop with
  | nil => cases h
  | cons c rest ih =>
    rw [rawTail] at h
    by_cases hc : c = rawQuote
    · subst hc
      rw [if_pos rfl] at h
      cases h
      exact ⟨List.not_mem_nil, rfl⟩
    · rw [if_neg hc] at h
      cases hrest : rawTail start (pos + c.utf8Size) rest with
      | error e => simp [hrest] at h
      | ok r =>
        obtain ⟨out', stop', left'⟩ := r
        simp only [hrest] at h
        cases h
        obtain ⟨hmem, rfl⟩ := ih hrest
        exact ⟨mt List.mem_cons.mp (not_or.mpr ⟨Ne.symm hc, hmem⟩), rfl⟩

/-- A text up to the closing raw quote is read as itself.

**Proof sketch.** One direction is `exists_of_rawTail`, the other one `rawTail_append`. -/
theorem rawTail_eq_ok_iff {cs out : List Char} {stop : Nat} :
    rawTail start pos cs = .ok (out, stop, left) ↔
      rawQuote ∉ out ∧ cs = out ++ rawQuote :: left ∧ stop = pos + String.utf8Len out + 1 := by
  constructor
  · intro h
    obtain ⟨hmem, rfl⟩ := exists_of_rawTail h
    rw [rawTail_append hmem] at h
    cases h
    exact ⟨hmem, rfl, rfl⟩
  · rintro ⟨hmem, rfl, rfl⟩
    exact rawTail_append hmem

end Formula.Lexer
