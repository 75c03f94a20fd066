import Formula.Proofs.Token.Spacing

set_option autoImplicit false

/-!
# Tokens tile their text

The tokens of a text and the blanks between them make up the text. Each token is all that is read of its
own stretch, so no token depends on what stands around it.

## Main definitions

* `Formula.Lexeme.positions` — where the tokens of a text start, and where it ends.
* `Formula.Lexeme.gaps` — what is left between tokens.
* `Formula.Lexeme.Tiles` — tokens make up a text.

## Main results

* `Formula.Lexeme.tiles_of_ofChars` — the tokens of a text make it up.
-/

namespace Formula

namespace Lexeme

/-- Where tokens start, and where the text ends. -/
def positions (tokens : List Lexeme) (stop : Nat) : List Nat :=
  tokens.map (·.start) ++ [stop]

/-- The stretches from `pos` to the first token, between tokens, and behind the last one. -/
def gaps (pos : Nat) (tokens : List Lexeme) (stop : Nat) : List (Nat × Nat) :=
  (pos :: tokens.map (·.stop)).zip (positions tokens stop)

/-- From `pos` on, `source` is made up of tokens with blanks around them, up to `stop`. -/
structure Tiles (source : String) (pos : Nat) (tokens : List Lexeme) (stop : Nat) : Prop where
  /-- Each token starts behind the one before, and the text ends behind the last. -/
  increasing : (positions tokens stop).Pairwise (· < ·)
  le : ∀ p ∈ positions tokens stop, pos ≤ p
  boundary : ∀ p ∈ positions tokens stop, String.Pos.Raw.IsValid source ⟨p⟩
  /-- No token reaches into the next one, and there are only blanks between them. -/
  blank : ∀ gap ∈ gaps pos tokens stop, gap.1 ≤ gap.2 ∧
    ∀ c ∈ (Text.between source gap.1 gap.2).toList, Text.isBlank c = true
  /-- Each token is all that is read of its own stretch. -/
  alone : ∀ t ∈ tokens, t.start < t.stop ∧ ofChars (Text.between source t.start t.stop).toList =
    .ok ([⟨t.token, 0, t.stop - t.start⟩], t.stop - t.start)

end Lexeme

namespace Lexer

variable {source : String} {pos stop : Nat} {rest left : List Char} {c : Char} {token : Token}
  {tokens : List Lexeme}

/-- The stretch of a token is read as this token and nothing else.

**Proof sketch.** The token is read in the same way when what follows it is cut off, and further to the
front. -/
lemma ofChars_of_scan {more : List Char} (hc : Text.isBlank c = false)
    (h : scan pos c (more ++ left) = .ok (token, stop, left)) :
    stop = pos + String.utf8Len (c :: more) ∧
      Lexeme.ofChars (c :: more) = .ok ([⟨token, 0, stop - pos⟩], stop - pos) := by
  obtain ⟨more', hmore, rfl, hclip⟩ := exists_of_scan h
  obtain rfl := List.append_cancel_right hmore
  have halone := hclip [] (clipped_nil left)
  rw [List.append_nil] at halone
  have hshift := scan_shift 0 pos c more
  rw [Nat.zero_add, halone] at hshift
  cases hzero : scan 0 c more with
  | error e => simp [hzero, Except.map, Except.mapError] at hshift
  | ok r =>
    obtain ⟨token', stop', left'⟩ := r
    rw [hzero] at hshift
    simp only [Except.map, Except.mapError, Except.ok.injEq, Prod.mk.injEq] at hshift
    obtain ⟨rfl, hstop, rfl⟩ := hshift
    obtain rfl : pos + String.utf8Len (c :: more) - pos = stop' := by omega
    refine ⟨rfl, ?_⟩
    rw [Lexeme.ofChars, ofCharsFrom_of_scan hc hzero, ofCharsFrom_nil]
    rfl

/-- Blanks alone make up a text without tokens. -/
lemma tiles_nil {gap : List Char} (hgap : Blanks gap) (h : Text.StandsAt source pos gap) :
    Lexeme.Tiles source pos [] (pos + String.utf8Len gap) where
  increasing := List.pairwise_singleton ..
  le p hp := by
    rw [List.mem_singleton.mp hp]
    exact Nat.le_add_right ..
  boundary p hp := by
    rw [List.mem_singleton.mp hp]
    exact h.isValid_stop
  blank := by
    rintro g hg
    rw [List.mem_singleton.mp hg]
    refine ⟨Nat.le_add_right .., ?_⟩
    rw [h.between_eq, String.toList_ofList]
    exact hgap
  alone := by simp

/-- Blanks and a token in front of tokens that make up the rest of a text.

**Proof sketch.** The stretch of the token is read as this token alone, and the blanks are in front of
it. Everything else is known of the tokens behind. -/
lemma tiles_cons {gap more : List Char} (hgap : Blanks gap) (hc : Text.isBlank c = false)
    (hscan : scan (pos + String.utf8Len gap) c (more ++ left) = .ok (token, stop, left))
    (h : Text.StandsAt source pos (gap ++ (c :: more ++ rest))) {last : Nat}
    (htiles : Lexeme.Tiles source stop tokens last) :
    Lexeme.Tiles source pos (⟨token, pos + String.utf8Len gap, stop⟩ :: tokens) last := by
  obtain ⟨hstop, halone⟩ := ofChars_of_scan hc hscan
  have hstands := h.behind.front
  have hbetween := hstands.between_eq
  rw [← hstop] at hbetween
  have hlt : pos + String.utf8Len gap < stop := by
    have hsize := c.utf8Size_pos
    rw [hstop, String.utf8Len_cons]
    omega
  constructor
  case increasing =>
    refine List.pairwise_cons.mpr ⟨fun p hp => ?_, htiles.increasing⟩
    exact Nat.lt_of_lt_of_le hlt (htiles.le p hp)
  case le =>
    refine List.forall_mem_cons.mpr ⟨Nat.le_add_right .., fun p hp => ?_⟩
    have hle := htiles.le p hp
    omega
  case boundary => exact List.forall_mem_cons.mpr ⟨hstands.isValid_start, htiles.boundary⟩
  case blank =>
    refine List.forall_mem_cons.mpr ⟨⟨Nat.le_add_right .., ?_⟩, htiles.blank⟩
    rw [h.front.between_eq, String.toList_ofList]
    exact hgap
  case alone =>
    refine List.forall_mem_cons.mpr ⟨⟨hlt, ?_⟩, htiles.alone⟩
    rw [hbetween, String.toList_ofList]
    exact halone

/-- The tokens that reading leads past make up the text, up to blanks behind them.

**Proof sketch.** Induction on the run, from the last token to the first. -/
lemma Reads.tiles {cs gap : List Char} {last : Nat} (h : Reads pos cs tokens last gap)
    (hgap : Blanks gap) (hstands : Text.StandsAt source pos cs) :
    Lexeme.Tiles source pos tokens (last + String.utf8Len gap) := by
  induction h with
  | nil pos cs => exact tiles_nil hgap hstands
  | @cons pos stop last gap' more left rest c token tokens hgap' hc hscan _ ih =>
    obtain ⟨text, rfl, hstop, -⟩ := exists_of_scan hscan
    have hstands' : Text.StandsAt source pos (gap' ++ (c :: text ++ left)) := hstands
    refine tiles_cons hgap' hc hscan hstands' (ih hgap ?_)
    rw [hstop]
    exact hstands'.behind.behind

end Lexer

/-- **The tokens of a text make it up.** The text ends where its last byte does. The positions of the
tokens and the end of the text increase and are character boundaries. Between a token and the next one
are only blanks, and what is read of the stretch of a token alone is this token. The end of the text is
no token, but the position behind them all.

**Proof sketch.** Reading leads past blanks and a token at a time. A token is read from its stretch
whatever follows, if nothing goes on with it; nothing does at the end of a text. -/
theorem Lexeme.tiles_of_ofChars {source : String} {tokens : List Lexeme} {stop : Nat}
    (h : ofChars source.toList = .ok (tokens, stop)) :
    stop = source.utf8ByteSize ∧ Tiles source 0 tokens stop := by
  obtain ⟨last, gap, hreads, hgap, rfl⟩ := Lexer.exists_reads h
  refine ⟨?_, hreads.tiles hgap (Text.standsAt_self source)⟩
  obtain ⟨used, hused, rfl, -⟩ := hreads.clipped
  rw [← String.utf8Len_toList source, hused, String.utf8Len_append, Nat.zero_add]

/-- A text with a character of three bytes, and blanks at both ends. -/
theorem Lexeme.tiles_of_ofChars_euro :
    ofChars " a[0]+'€' ".toList =
      .ok ([⟨.identifier "a", 1, 2⟩, ⟨.symbol .leftBracket, 2, 3⟩, ⟨.number (Double.ofInt 0), 3, 4⟩,
        ⟨.symbol .rightBracket, 4, 5⟩, ⟨.symbol .plus, 5, 6⟩, ⟨.string "€", 6, 11⟩], 12) ∧
    Tiles " a[0]+'€' " 0 [⟨.identifier "a", 1, 2⟩, ⟨.symbol .leftBracket, 2, 3⟩,
      ⟨.number (Double.ofInt 0), 3, 4⟩, ⟨.symbol .rightBracket, 4, 5⟩, ⟨.symbol .plus, 5, 6⟩,
      ⟨.string "€", 6, 11⟩] 12 := by
  have h : ofChars " a[0]+'€' ".toList =
      .ok ([⟨.identifier "a", 1, 2⟩, ⟨.symbol .leftBracket, 2, 3⟩, ⟨.number (Double.ofInt 0), 3, 4⟩,
        ⟨.symbol .rightBracket, 4, 5⟩, ⟨.symbol .plus, 5, 6⟩, ⟨.string "€", 6, 11⟩], 12) := by
    decide +kernel
  exact ⟨h, (tiles_of_ofChars h).2⟩

end Formula
