import Formula.Proofs.Token.Run

set_option autoImplicit false

/-!
# Words behind numbers

A decimal number with a word directly behind it is refused: `12abc` is neither a number nor two tokens.
A hexadecimal number is not looked behind, so `0x1in` is a number and a word.

## Main definitions

* `Formula.Lexer.LongestDecimal` — the longest decimal number at the beginning of a text.

## Main results

* `Formula.Lexer.exists_of_scan_number_error` — a decimal number is refused in front of a word.
* `Formula.Lexer.word_behind_number` — which numbers have a word directly behind them, and which texts
  are refused for it.
-/

namespace Formula

namespace Lexer

variable {pos stop : Nat} {c d : Char} {cs all number left rest more : List Char}
  {tokens : List Lexeme} {source : String}

/-! ## The longest decimal number -/

/-- The longest decimal number at the beginning of a text. -/
structure LongestDecimal (number cs : List Char) : Prop where
  decimal : IsDecimal number
  front : number <+: cs
  longest : ∀ other, IsDecimal other → other <+: cs → other.length ≤ number.length

/-- A decimal number in front of what is separate from it does not go on.

**Proof sketch.** A longer decimal number begins with the shorter one, and what is separate from the
shorter one is so up to the end of the longer one. Reading the longer number alone thus gives both. -/
lemma Separate.eq_of_isDecimal (h : IsDecimal all) (hleft : Separate all left)
    (hnumber : IsDecimal number) (hfront : number <+: all ++ left)
    (hle : all.length ≤ number.length) : number = all := by
  obtain ⟨more, rfl⟩ : all <+: number :=
    List.prefix_of_prefix_length_le (List.prefix_append all left) hfront hle
  have hmore : more <+: left := (List.prefix_append_right_inj all).mp hfront
  have hclip : Clipped left more := ⟨more, [], (List.append_nil more).symm, hmore, by simp⟩
  have hend : Separate (all ++ more) [] := ⟨by simp, by simp⟩
  have hshort := decimalChars_append h (hleft.clipped hclip)
  have hlong := decimalChars_append hnumber hend
  rw [List.append_nil, hshort] at hlong
  exact (Except.ok.inj hlong).symm

/-- A decimal number that goes as far as it can is not read in front of a word. -/
lemma exists_decimalChars_eq_error (h : LongestDecimal number (number ++ c :: rest))
    (hc : isWordChar c = true) : ∃ cut, decimalChars (number ++ c :: rest) = .error cut := by
  obtain ⟨d, more, rfl, hd⟩ := h.decimal.exists_cons
  cases hread : decimalChars (d :: more ++ c :: rest) with
  | error cut => exact ⟨cut, rfl⟩
  | ok all =>
    obtain ⟨hall, left, hcs, hleft⟩ := decimalChars_of_eq_ok hd hread
    have hle := h.longest all hall ⟨left, hcs.symm⟩
    have hcs : d :: more ++ c :: rest = all ++ left := hcs
    have hfront := h.front
    rw [hcs] at hfront
    obtain rfl := hleft.eq_of_isDecimal hall h.decimal hfront hle
    obtain rfl := List.append_cancel_left hcs
    have hword := hleft.word c rfl
    rw [hc] at hword
    cases hword

/-- A decimal number is refused in front of a word, unless a hexadecimal number begins there. -/
theorem exists_of_scan_number_error (pos : Nat)
    (h : LongestDecimal (d :: more) (d :: more ++ c :: rest)) (hc : isWordChar c = true)
    (hhex : ∀ hex, IsHexadecimal hex → ¬hex <+: d :: more ++ c :: rest) :
    ∃ text, scan pos d (more ++ c :: rest) = .error (.invalidNumber text pos) := by
  obtain ⟨e, digits, heq, hd⟩ := h.decimal.exists_cons
  obtain ⟨rfl, rfl⟩ := List.cons.inj heq
  rw [scan_of_isDigit hd]
  by_cases hmark : MarksHexadecimal d (more ++ c :: rest)
  · obtain ⟨rfl, mark, digits, hrest, hmark⟩ := hmark
    rw [hrest, number_of_marksHexadecimal hmark]
    -- Hexadecimal digits behind the mark would be a hexadecimal number.
    have hnil : digits.takeWhile Text.isHexDigit = [] := by
      by_contra hne
      obtain ⟨hdigits, hall, -⟩ := takeWhile_spec Text.isHexDigit digits
      refine hhex _ (.mk hmark hne hall) ⟨digits.dropWhile Text.isHexDigit, ?_⟩
      rw [List.cons_append, List.cons_append, ← hdigits, List.cons_append, hrest]
    refine ⟨String.ofList ['0', mark], ?_⟩
    unfold hexadecimal
    rw [hnil]
    rfl
  · obtain ⟨cut, hcut⟩ := exists_decimalChars_eq_error h hc
    rw [List.cons_append] at hcut
    rw [number_of_not_marksHexadecimal hmark]
    refine ⟨String.ofList cut, ?_⟩
    unfold decimal
    rw [hcut]
    rfl

/-! ## Hexadecimal numbers -/

/-- A hexadecimal number is read as far as its digits go, whatever follows. -/
lemma Reaches.hexadecimal (h : Reaches source tokens pos (number ++ rest))
    (hnumber : IsHexadecimal number) (hlt : Text.hexNumber (number.drop 2) < 0x10000000000000000)
    (hrest : ∀ c ∈ rest.head?, Text.isHexDigit c = false) :
    Reaches source
      (tokens ++ [⟨.number (Double.ofNat (Text.hexNumber (number.drop 2))), pos,
        pos + number.length⟩])
      (pos + number.length) rest := by
  have htext := NumberText.hexadecimal hnumber hlt hrest
  have hlen := Text.utf8Len_eq_length fun c => htext.mem_lt (c := c)
  obtain ⟨c, more, rfl⟩ : ∃ c more, number = c :: more := by
    cases hnumber
    exact ⟨_, _, rfl⟩
  have hblank := isBlank_of_isDigit htext.isDigit
  exact h.snoc hblank (scan_eq_number_iff.mpr ⟨more, rfl, htext, by rw [hlen]⟩)

/-! ## Where tokens stand -/

/-- Every token that reading leads past is read where it stands in the text. -/
lemma Reads.exists_of_mem {last : Nat} {t : Lexeme} (h : Reads pos cs tokens last rest)
    (ht : t ∈ tokens) {before : List Char} (hsource : source.toList = before ++ cs)
    (hpos : String.utf8Len before = pos) :
    ∃ front c behind, source.toList = front ++ c :: behind ∧ String.utf8Len front = t.start ∧
      ∃ left, scan t.start c behind = .ok (t.token, t.stop, left) := by
  induction h generalizing before with
  | nil => cases ht
  | @cons pos stop last gap more left rest c token tokens hgap hc hscan _ ih =>
    have hfront : String.utf8Len (before ++ gap) = pos + String.utf8Len gap := by
      rw [String.utf8Len_append, hpos]
    rcases List.mem_cons.mp ht with rfl | hmem
    · refine ⟨before ++ gap, c, more, ?_, hfront, left, hscan⟩
      rw [hsource, List.append_assoc]
    · obtain ⟨text, rfl, rfl, -⟩ := exists_of_scan hscan
      have hsource' : source.toList = before ++ gap ++ c :: text ++ left := by
        simp only [hsource, List.append_assoc, List.cons_append]
      exact ih hmem hsource' (by rw [String.utf8Len_append, hfront])

/-- A number with a word character directly behind it is hexadecimal. -/
lemma Reads.isHexadecimal {last : Nat} {t : Lexeme} {x : Double}
    (h : Reads 0 source.toList tokens last rest) (ht : t ∈ tokens) (hx : t.token = .number x)
    (hbehind : Text.StandsAt source t.stop [c]) (hc : isWordChar c = true) :
    IsHexadecimal (Text.between source t.start t.stop).toList ∧ Text.isHexDigit c = false := by
  obtain ⟨front, d, behind, hsource, hfront, left, hscan⟩ :=
    h.exists_of_mem ht (List.nil_append _).symm rfl
  rw [hx] at hscan
  obtain ⟨more, rfl, hnumber, hstop⟩ := scan_eq_number_iff.mp hscan
  have hstands : Text.StandsAt source t.start (d :: more) := ⟨front, left, hsource, hfront⟩
  have hbetween := hstands.between_eq
  have hsource' : source.toList = front ++ d :: more ++ left := by
    rw [hsource, List.append_assoc, List.cons_append]
  have hhead : left.head? = some c :=
    hbehind.head?_eq hsource' (by rw [String.utf8Len_append, hfront, hstop])
  rw [hstop, hbetween, String.toList_ofList]
  cases hnumber with
  | decimal _ hseparate _ =>
    have hword := hseparate.word c hhead
    rw [hc] at hword
    cases hword
  | hexadecimal hshape _ hend => exact ⟨hshape, hend c hhead⟩

/-- **Only hexadecimal numbers have words directly behind them.** If a text is split into tokens and a
word character stands directly behind a number, the number is hexadecimal, and the character is no
digit of it. A text is refused where a decimal number stands that does not go on, with a word character
behind it. A hexadecimal number that fits is read whatever follows its digits, so a word may.

**Proof sketch.** A decimal number is read if what follows is separate from it. If it goes as far as it
can and a word character follows, no decimal number is separate from what follows it there, as such a
one goes as far as it can too. -/
theorem word_behind_number (source : String) :
    (∀ tokens stop, Lexeme.ofChars source.toList = .ok (tokens, stop) →
      ∀ t ∈ tokens, ∀ x c, t.token = .number x → Text.StandsAt source t.stop [c] →
        isWordChar c = true →
        IsHexadecimal (Text.between source t.start t.stop).toList ∧ Text.isHexDigit c = false) ∧
    (∀ tokens pos number c rest, Reaches source tokens pos (number ++ c :: rest) →
      LongestDecimal number (number ++ c :: rest) → isWordChar c = true →
      (∀ hex, IsHexadecimal hex → ¬hex <+: number ++ c :: rest) →
      ∃ text, Lexeme.ofChars source.toList = .error (.invalidNumber text pos)) ∧
    (∀ tokens pos number rest, Reaches source tokens pos (number ++ rest) → IsHexadecimal number →
      Text.hexNumber (number.drop 2) < 0x10000000000000000 →
      (∀ c ∈ rest.head?, Text.isHexDigit c = false) →
      Reaches source
        (tokens ++ [⟨.number (Double.ofNat (Text.hexNumber (number.drop 2))), pos,
          pos + number.length⟩])
        (pos + number.length) rest) := by
  refine ⟨?_, ?_, fun tokens pos number rest h => h.hexadecimal⟩
  · intro tokens stop h t ht x c hx hbehind hc
    obtain ⟨last, gap, hreads, -, -⟩ := exists_reads h
    exact hreads.isHexadecimal ht hx hbehind hc
  · intro tokens pos number c rest hreaches hlongest hc hhex
    obtain ⟨d, more, rfl, hd⟩ := hlongest.decimal.exists_cons
    obtain ⟨text, hscan⟩ := exists_of_scan_number_error pos hlongest hc hhex
    have hblank := isBlank_of_isDigit hd
    refine ⟨text, ?_⟩
    rw [hreaches.ofChars_eq, List.cons_append, ofCharsFrom_of_scan_error hblank hscan]
    rfl

/-- The word `in` directly behind a hexadecimal number, and a word behind a decimal number in an
array. -/
theorem word_behind_number_in :
    Reaches "0x1in" [⟨.number (Double.ofNat 1), 0, 3⟩] 3 ['i', 'n'] ∧
    (IsHexadecimal (Text.between "0x1in" 0 3).toList ∧ Text.isHexDigit 'i' = false) ∧
    ∃ text, Lexeme.ofChars "[12abc]".toList = .error (.invalidNumber text 1) := by
  obtain ⟨hbehind, -, hhexadecimal⟩ := word_behind_number "0x1in"
  obtain ⟨-, hrefused, -⟩ := word_behind_number "[12abc]"
  have hstart : Reaches "0x1in" [] 0 (['0', 'x', '1'] ++ ['i', 'n']) :=
    ⟨0, [], .nil 0 _, by simp [Blanks], rfl⟩
  have hbracket : Reaches "[12abc]" [⟨.symbol .leftBracket, 0, 1⟩] 1
      (['1', '2'] ++ ['a', 'b', 'c', ']']) := by
    have h : Reaches "[12abc]" [] 0 ('[' :: ['1', '2', 'a', 'b', 'c', ']']) :=
      ⟨0, [], .nil 0 _, by simp [Blanks], rfl⟩
    exact h.snoc (by decide) rfl
  refine ⟨?_, ?_, ?_⟩
  · have hnumber : IsHexadecimal ['0', 'x', '1'] :=
      .mk (.inl rfl) (by decide) (List.forall_mem_singleton.mpr rfl)
    have hend : ∀ c ∈ ['i', 'n'].head?, Text.isHexDigit c = false := by
      rintro c ⟨⟩
      rfl
    exact hhexadecimal [] 0 _ _ hstart hnumber (by decide) hend
  · have hread : Lexeme.ofChars "0x1in".toList =
        .ok ([⟨.number (Double.ofNat 1), 0, 3⟩, ⟨.symbol .wordIn, 3, 5⟩], 5) := by
      decide +kernel
    exact hbehind _ _ hread _ List.mem_cons_self _ 'i' rfl ⟨['0', 'x', '1'], ['n'], rfl, rfl⟩ rfl
  · have hlongest : LongestDecimal ['1', '2'] (['1', '2'] ++ ['a', 'b', 'c', ']']) := by
      refine ⟨?_, List.prefix_append _ _, fun other hother hfront => ?_⟩
      · exact @IsDecimal.mk ['1', '2'] [] [] ⟨by decide, by simp⟩ .none .none
      · by_contra hlong
        have hthree : ['1', '2', 'a'] <+: other :=
          List.prefix_of_prefix_length_le (by decide) hfront (Nat.not_le.mp hlong)
        have hmem : 'a' ∈ other := hthree.subset (by decide)
        exact absurd (hother.mem hmem) (by decide)
    refine hrefused _ _ ['1', '2'] 'a' _ hbracket hlongest rfl fun hex hhex hfront => ?_
    cases hhex
    exact absurd (List.cons_prefix_cons.mp hfront).1 (by decide)

/-- It is not so that no word character stands directly behind a number. -/
theorem number_in_front_of_word_in :
    Lexeme.ofChars "0x1in [1]".toList =
      .ok ([⟨.number (Double.ofNat 1), 0, 3⟩, ⟨.symbol .wordIn, 3, 5⟩,
        ⟨.symbol .leftBracket, 6, 7⟩, ⟨.number (Double.ofInt 1), 7, 8⟩,
        ⟨.symbol .rightBracket, 8, 9⟩], 9) ∧
    Text.StandsAt "0x1in [1]" 3 ['i'] ∧ isWordChar 'i' = true := by
  refine ⟨?_, ?_, rfl⟩
  · decide +kernel
  · exact ⟨['0', 'x', '1'], ['n', ' ', '[', '1', ']'], rfl, rfl⟩

end Lexer

end Formula
