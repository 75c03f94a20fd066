import Formula.Parser
import Formula.Pattern.Meaning
import Formula.Proofs.Grammar.Soundness
import Formula.Proofs.Token.Refusal
import Formula.Proofs.Token.Tiling

set_option autoImplicit false

/-!
# Where an expression is refused

Whatever is left of the tokens while they are read is a suffix of them, and every reader is handed such
a suffix. So a position that a reader takes from its tokens is that of one of them, and an error for a
call has its name and its position from one identifier.

## Main definitions

* `Formula.Grammar.Calls` — among tokens, a name is called at a position.
* `Formula.Grammar.Blames` — what an error says about tokens.
* `Formula.Grammar.Fair` — a reader of phrases is right about the tokens it refuses.

## Main results

* `Formula.Grammar.phrase_fair` — the readers of phrases are fair on every level.
* `Formula.Grammar.expression_blames` — every error is right about the tokens.
* `Formula.Parser.parse_error_position` — every error is right about the source text.
-/

namespace Formula

namespace Grammar

variable {α : Type} {g : Grammar} {inner : Inner} {tokens rest : List Lexeme} {e : SyntaxError}

/-! ## What errors say -/

/-- Among tokens, an identifier that starts at a position stands in front of a parenthesis. -/
def Calls (tokens : List Lexeme) (name : String) (pos : Nat) : Prop :=
  ∃ before stop left right after,
    tokens = before ++ ⟨.identifier name, pos, stop⟩ :: ⟨.symbol .leftParen, left, right⟩ :: after

/-- What an error says about the tokens of a text. The errors of single tokens say nothing about tokens
that have been read, and none of them is given for these. -/
def Blames (g : Grammar) (tokens : List Lexeme) (e : SyntaxError) : Prop :=
  match e with
  | .unexpectedToken found pos => ∃ t ∈ tokens, t.token = found ∧ t.start = pos
  | .unknownFunction name pos => Calls tokens name pos ∧ g.resolve name = none
  | .arity name expected found pos => Calls tokens name pos ∧
    ∃ d, g.resolve name = some d ∧ d.arity = expected ∧ expected.accepts found = false
  | .tooDeep limit pos => limit = g.limit ∧ pos ∈ Lexeme.positions tokens g.stop
  | .empty | .unexpectedEnd _ | .invalidRegex _ => True
  | _ => False

/-- A call among the last of the tokens is one among all of them. -/
lemma Calls.of_suffix {name : String} {pos : Nat} (h : Calls rest name pos) (hrest : rest <:+ tokens) :
    Calls tokens name pos := by
  obtain ⟨before, stop, left, right, after, rfl⟩ := h
  obtain ⟨front, rfl⟩ := hrest
  exact ⟨front ++ before, stop, left, right, after, (List.append_assoc ..).symm⟩

/-- What is said about the last of the tokens is said about all of them.

**Proof sketch.** A token and a call among the last tokens are among all of them, and so is a place
where a token starts. -/
lemma Blames.of_suffix (h : Blames g rest e) (hrest : rest <:+ tokens) : Blames g tokens e := by
  cases e
  case unexpectedToken =>
    obtain ⟨t, ht, hfound⟩ := h
    exact ⟨t, hrest.subset ht, hfound⟩
  case unknownFunction => exact ⟨h.1.of_suffix hrest, h.2⟩
  case arity => exact ⟨h.1.of_suffix hrest, h.2⟩
  case tooDeep =>
    refine ⟨h.1, ?_⟩
    rcases List.mem_append.mp h.2 with hstart | hstop
    · exact List.mem_append_left _ ((hrest.map _).subset hstart)
    · exact List.mem_append_right _ hstop
  all_goals exact h

/-- What is said about tokens is said about them with one more in front. -/
lemma Blames.cons {t : Lexeme} (h : Blames g tokens e) : Blames g (t :: tokens) e :=
  h.of_suffix (List.suffix_cons t tokens)

/-! ## Errors for one token -/

/-- An unexpected token is the first one that is left.

**Proof sketch.** Without tokens it is the end that is unexpected. -/
lemma unexpected_blames {expected : Expected}
    (h : (unexpected tokens expected : Except SyntaxError α) = .error e) : Blames g tokens e := by
  cases tokens with
  | nil =>
    cases h
    trivial
  | cons t tail =>
    cases h
    exact ⟨t, List.mem_cons_self, rfl, rfl⟩

/-- Where a symbol is missed, the token in its place is to blame.

**Proof sketch.** The token is another symbol or no symbol at all, or there is none. -/
lemma expect_blames {s : Symbol} (h : expect s tokens = .error e) : Blames g tokens e := by
  unfold expect at h
  split at h
  · split at h
    · cases h
    · exact unexpected_blames h
  · exact unexpected_blames h

/-- Where the tokens are nested too deeply, the bound of the grammar and a place among them are named. -/
lemma tooDeep_blames {pos : Nat} (hpos : pos ∈ Lexeme.positions tokens g.stop)
    (h : (g.tooDeep pos : Except SyntaxError α) = .error e) : Blames g tokens e := by
  cases h
  exact ⟨rfl, hpos⟩

/-- Nesting that is too deep is refused where the next token starts, or at the end. -/
lemma here_mem_positions (g : Grammar) (tokens : List Lexeme) :
    g.here tokens ∈ Lexeme.positions tokens g.stop := by
  cases tokens <;> simp [here, Lexeme.positions]

/-- An operator that does not join its operands is to blame for it, or the text of its pattern is.

**Proof sketch.** A match with a literal pattern is refused for the text of the pattern. What remains is
an operator that is none, and it is refused where it stands. -/
lemma combine_blames {s : Symbol} {pos stop : Nat} {l r : Expr}
    (h : g.combine s pos l r = .error e) : Blames g (⟨.symbol s, pos, stop⟩ :: tokens) e := by
  have hliteral {negated : Bool} {text : String} {e : SyntaxError}
      (h : combine.literalMatch g l negated text = .error e) :
      Blames g (⟨.symbol s, pos, stop⟩ :: tokens) e := by
    unfold combine.literalMatch at h
    split at h
    · cases h
    · cases h
      trivial
  unfold combine at h
  split at h
  case h_4 | h_5 => exact hliteral h
  case h_8 =>
    split at h
    · cases h
    · cases h
      exact ⟨_, List.mem_cons_self, rfl, rfl⟩
  all_goals cases h

/-! ## Readers -/

/-- A reader of phrases that is sound, and right about the tokens that it refuses. -/
structure Fair (g : Grammar) (inner : Inner) : Prop where
  sound : Sound g.resolve g.compile inner
  blames : ∀ {p tokens e}, inner p tokens = .error e → Blames g tokens e

/-- Items are refused for what the reader of one item says, or for the symbol behind one.

**Proof sketch.** Induction on the loop over the items. A refusal comes from an item, from the symbol
behind one, or from the rest of the list. What is left behind an item is a suffix of the tokens. -/
lemma items_blames {item : List Lexeme → Outcome α}
    (hsuffix : ∀ {tokens x rest}, item tokens = .ok (x, rest) → rest <:+ tokens)
    (hitem : ∀ {tokens e}, item tokens = .error e → Blames g tokens e) {close : Symbol} {fuel : Nat}
    (h : items close item fuel tokens = .error e) : Blames g tokens e := by
  fun_induction items close item fuel tokens with
  | case1 | case4 | case7 => cases h
  | case2 _ _ _ _ err hx =>
    cases h
    exact hitem hx
  | case3 _ _ _ _ _ _ hx _ _ _ hend =>
    cases h
    exact (expect_blames hend).of_suffix (hsuffix hx)
  | case5 _ _ _ _ _ hx _ hcomma =>
    exact (unexpected_blames h).of_suffix ((suffix_of_expect hcomma).trans (hsuffix hx))
  | case6 _ _ _ _ _ hx _ hcomma _ _ hxs ih =>
    cases h
    exact (ih hxs).of_suffix ((suffix_of_expect hcomma).trans (hsuffix hx))

namespace Fair

variable (hf : Fair g inner)

include hf

/-- A list of expressions is refused for what is among its tokens. -/
lemma list_blames {close : Symbol} {fuel : Nat}
    (h : items close (inner .expression) fuel tokens = .error e) : Blames g tokens e :=
  items_blames hf.sound.suffix hf.blames h

/-- An entry of a map is refused for what is among its tokens.

**Proof sketch.** Without a key the first token is to blame, without a colon the token behind the key,
and otherwise the value. -/
lemma entry_blames (h : entry inner tokens = .error e) : Blames g tokens e := by
  unfold entry at h
  split at h
  case h_3 => exact unexpected_blames h
  all_goals
    dsimp only at h
    split at h
    · next hcolon =>
      cases h
      exact (expect_blames hcolon).cons
    · next hcolon =>
      split at h
      · next he =>
        cases h
        exact ((hf.blames he).of_suffix (suffix_of_expect hcolon)).cons
      · cases h

/-- The name and the position of a call are those of the identifier in front of the parenthesis.

**Proof sketch.** The function may be unknown, an argument may be refused, or the arguments may be too
few or too many. The first and the last of these name the identifier. -/
lemma call_blames {name : String} {pos stop left right : Nat}
    (h : g.call inner name pos tokens = .error e) :
    Blames g (⟨.identifier name, pos, stop⟩ :: ⟨.symbol .leftParen, left, right⟩ :: tokens) e := by
  have hcalls : Calls (⟨.identifier name, pos, stop⟩ :: ⟨.symbol .leftParen, left, right⟩ :: tokens)
      name pos := ⟨[], stop, left, right, tokens, rfl⟩
  unfold call at h
  split at h
  · next hname =>
    cases h
    exact ⟨hcalls, hname⟩
  · next d hname =>
    split at h
    · next hargs =>
      cases h
      exact (hf.list_blames hargs).cons.cons
    · split at h
      · cases h
      · next hcount =>
        cases h
        exact ⟨hcalls, d, hname, rfl, Bool.not_eq_true _ ▸ hcount⟩

/-- A primary expression is refused for what is among its tokens.

**Proof sketch.** One case for each way in which it begins. The readers of its parts are right about
their own tokens, which are a suffix. -/
lemma primary_blames (h : g.primary inner tokens = .error e) : Blames g tokens e := by
  unfold primary at h
  split at h
  case h_6 =>
    split at h
    · next he =>
      cases h
      exact (hf.blames he).cons
    · next he =>
      split at h
      · next hclose =>
        cases h
        exact ((expect_blames hclose).of_suffix (hf.sound.suffix he)).cons
      · cases h
  case h_7 =>
    split at h
    · next hes =>
      cases h
      exact (hf.list_blames hes).cons
    · cases h
  case h_8 =>
    split at h
    · next hentries =>
      cases h
      exact (items_blames hf.sound.entry_suffix hf.entry_blames hentries).cons
    · cases h
  case h_9 => exact hf.call_blames h
  case h_11 => exact unexpected_blames h
  all_goals cases h

/-- Accesses are refused for what is among their tokens.

**Proof sketch.** Induction on the loop over accesses. Behind a dot no name may come, between brackets
the position may be refused, and the closing bracket may be missing. -/
lemma accesses_blames {left : Nat} {operand : Expr}
    (h : g.accesses inner left operand tokens = .error e) : Blames g tokens e := by
  fun_induction accesses g inner left operand tokens with
  | case1 => exact tooDeep_blames List.mem_cons_self h
  | case2 _ _ _ _ _ _ _ _ ih => exact (ih h).cons.cons
  | case3 => exact (unexpected_blames h).cons
  | case4 _ _ _ _ _ _ hp =>
    cases h
    exact (hf.blames hp).cons
  | case5 _ _ _ _ _ _ _ hp _ hclose =>
    cases h
    exact ((expect_blames hclose).of_suffix (hf.sound.suffix hp)).cons
  | case6 => exact tooDeep_blames List.mem_cons_self h
  | case7 _ _ _ _ _ _ hp _ hclose _ ih =>
    exact ((ih h).of_suffix ((suffix_of_expect hclose).trans (hf.sound.suffix hp))).cons
  | case8 => cases h

/-- An operand with accesses is refused for what is among its tokens.

**Proof sketch.** Either the operand is refused, or the loop over the accesses behind it. -/
lemma accessed_blames {levels : Nat} (h : g.accessed inner levels tokens = .error e) :
    Blames g tokens e := by
  unfold accessed at h
  split at h
  · next hp =>
    cases h
    exact hf.primary_blames hp
  · next hp => exact (hf.accesses_blames h).of_suffix ((primary_ok hp).reads hf.sound).suffix

/-- Operators are refused for what is among their tokens.

**Proof sketch.** Induction on the loop over operators. The right operand may be refused, the loop may
run too long, or the operands may not be joined. -/
lemma operators_blames {least left : Nat} {operand : Expr}
    (h : g.operators inner least left operand tokens = .error e) : Blames g tokens e := by
  fun_induction operators g inner least left operand tokens with
  | case1 | case2 | case7 => cases h
  | case3 _ _ _ _ _ _ _ _ _ _ hr =>
    cases h
    exact (hf.blames hr).cons
  | case4 => exact tooDeep_blames List.mem_cons_self h
  | case5 _ _ _ _ _ _ _ _ _ _ _ _ _ he =>
    cases h
    exact combine_blames he
  | case6 _ _ _ _ _ _ _ _ _ _ hr _ _ _ ih => exact ((ih h).of_suffix (hf.sound.suffix hr)).cons

/-- A signed operand is refused for what is among its tokens.

**Proof sketch.** Behind an operator it is the operand that is refused, and otherwise there is no
operator. -/
lemma signed_blames {levels : Nat} (h : g.signed inner levels tokens = .error e) :
    Blames g tokens e := by
  unfold signed at h
  split at h
  · split at h
    · split at h
      · next he =>
        cases h
        exact (hf.blames he).cons
      · cases h
    · exact hf.accessed_blames h
  · exact hf.accessed_blames h

/-- An operand of operators is refused for what is among its tokens.

**Proof sketch.** Either the signed operand is refused, or the loop over the operators behind it. -/
lemma operand_blames {levels least : Nat} (h : g.operand inner levels least tokens = .error e) :
    Blames g tokens e := by
  unfold operand at h
  split at h
  · next hs =>
    cases h
    exact hf.signed_blames hs
  · next hs => exact (hf.operators_blames h).of_suffix (signed_reads hf.sound hs).suffix

/-- An expression is refused for what is among its tokens.

**Proof sketch.** The test, the colon and the two alternatives stand one behind the other, and whatever
is left behind each of them is a suffix of the tokens. -/
lemma conditional_blames {levels : Nat} (h : g.conditional inner levels tokens = .error e) :
    Blames g tokens e := by
  unfold conditional at h
  split at h
  · next htest =>
    cases h
    exact hf.operand_blames htest
  next htest =>
    have hmid := (operand_reads hf.sound htest).1.suffix
    split at h
    · cases h
    next hq =>
      have hpositive := (suffix_of_expect hq).trans hmid
      split at h
      · next hp =>
        cases h
        exact (hf.blames hp).of_suffix hpositive
      next hp =>
        have hcolon := (hf.sound.suffix hp).trans hpositive
        split at h
        · next hc =>
          cases h
          exact (expect_blames hc).of_suffix hcolon
        next hc =>
          split at h
          · next hn =>
            cases h
            exact (hf.blames hn).of_suffix ((suffix_of_expect hc).trans hcolon)
          · cases h

end Fair

/-- The readers of phrases are right about the tokens that they refuse.

**Proof sketch.** Induction on the levels that are left. Without any the tokens are nested too deeply.
With one more each phrase is read by a reader that is fair because the phrases within it are. -/
lemma phrase_fair (g : Grammar) (levels : Nat) : Fair g (g.phrase levels) := by
  refine ⟨phrase_sound g levels, ?_⟩
  induction levels with
  | zero => exact fun h => tooDeep_blames (here_mem_positions g _) h
  | succ levels ih =>
    have hf : Fair g (g.phrase levels) := ⟨phrase_sound g levels, ih⟩
    intro p tokens e h
    cases p with
    | expression => exact hf.conditional_blames h
    | operand least => exact hf.operand_blames h
    | signed => exact hf.signed_blames h

/-- Tokens that form no expression are refused for what is among them.

**Proof sketch.** Without tokens nothing is blamed. If the phrase is refused, it is so for what is among
the tokens, and if tokens are left behind it, the first of them is to blame. -/
theorem expression_blames (h : g.expression tokens = .error e) : Blames g tokens e := by
  have hf := phrase_fair g g.limit
  unfold expression at h
  split at h
  · cases h
    trivial
  · split at h
    · next hphrase =>
      cases h
      exact hf.blames hphrase
    · cases h
    · next t tail hphrase =>
      cases h
      exact ⟨t, (hf.sound.suffix hphrase).subset List.mem_cons_self, rfl, rfl⟩

/-- An error points to where a token starts, or to the end.

**Proof sketch.** One case for each error that has a position. A token starts there, or an identifier
does. -/
lemma Blames.mem_positions {pos : Nat} (h : Blames g tokens e) (hpos : e.pos? = some pos) :
    pos ∈ Lexeme.positions tokens g.stop := by
  have hcalls {name : String} {pos : Nat} (h : Calls tokens name pos) :
      pos ∈ Lexeme.positions tokens g.stop := by
    obtain ⟨before, stop, left, right, after, rfl⟩ := h
    simp [Lexeme.positions]
  cases e <;> cases hpos
  case unexpectedToken =>
    obtain ⟨t, ht, -, rfl⟩ := h
    exact List.mem_append_left _ (List.mem_map_of_mem ht)
  case unknownFunction => exact hcalls h.1
  case arity => exact hcalls h.1
  case tooDeep => exact h.2
  all_goals exact h.elim

end Grammar

/-- The parser fails where the expression of the text does.

**Proof sketch.** What is read as an expression is not refused any more. -/
lemma Parser.expression_of_parse_error {p : Parser} {source : String} {e : SyntaxError}
    (h : p.parse source = .error e) : p.expression source = .error e := by
  unfold parse at h
  cases hread : p.expression source with
  | ok root =>
    rw [hread] at h
    cases h
  | error err =>
    rw [hread] at h
    cases h
    rfl

/-- **Error positions are usable offsets.** If a source text is refused with an error that carries a
position, this position is at most the number of bytes of the text, and a character boundary.
Moreover, the error is right about what stands there.

1. If the text cannot be split into tokens, reading has come to an unexpected character, to the text of
   an invalid number, or to the quote that begins an unclosed text. An invalid escape begins with a
   backslash at its position, behind pieces of a text whose opening quote reading has come to.
2. Otherwise, an unexpected token is among the tokens and starts at the position. A call of an unknown
   function, or with a number of arguments that the function does not take, has the reported name as
   an identifier that starts at the position, in front of a parenthesis. Nesting is too deep where a
   token starts, or at the end.

**Proof sketch.** Reading a text leads past tokens and blanks, so it comes to character boundaries only;
in a quoted text it leads past whole pieces. The readers of the grammar are handed suffixes of the
tokens of the text, and take each position from the first of the tokens they are handed, or from one
that they have just passed. -/
theorem Parser.parse_error_position {language : Language} {options : Options}
    {patterns : Pattern.Engine} {source : String} {e : SyntaxError}
    (h : Parser.parse ⟨language, options, patterns⟩ source = .error e) :
    (∀ pos, e.pos? = some pos →
      pos ≤ source.utf8ByteSize ∧ String.Pos.Raw.IsValid source ⟨pos⟩) ∧
    (Lexer.Blames source e ∨
      ∃ tokens stop, Lexeme.ofChars source.toList = .ok (tokens, stop) ∧
        Grammar.Blames ⟨language.resolve, patterns.compile, options.maxDepth, stop⟩ tokens e) := by
  have hexpression := expression_of_parse_error h
  unfold expression at hexpression
  cases htokens : Lexeme.ofChars source.toList with
  | error err =>
    unfold Grammar.parse at hexpression
    rw [htokens] at hexpression
    cases hexpression
    have hblames := Lexer.blames_of_ofChars htokens
    refine ⟨fun pos hpos => ?_, .inl hblames⟩
    have hvalid := hblames.isValid hpos
    exact ⟨hvalid.le_utf8ByteSize, hvalid⟩
  | ok r =>
    obtain ⟨tokens, stop⟩ := r
    rw [Grammar.parse_eq htokens] at hexpression
    have hblames := Grammar.expression_blames hexpression
    obtain ⟨last, gap, hreads, hgap, rfl⟩ := Lexer.exists_reads htokens
    have htiles := hreads.tiles hgap (Text.standsAt_self source)
    refine ⟨fun pos hpos => ?_, .inr ⟨tokens, _, rfl, hblames⟩⟩
    have hvalid := htiles.boundary pos (hblames.mem_positions hpos)
    exact ⟨hvalid.le_utf8ByteSize, hvalid⟩

/-- Behind a character of two bytes, an invalid escape and an unknown function.

**Proof sketch.** Both texts are refused by evaluation, and the general theorem says that the positions
are in the texts. -/
theorem Parser.parse_error_position_accent :
    Parser.parse ⟨.ofLibraries [], {}, .standard⟩ "'é' + '\\q'" = .error (.invalidEscape 8) ∧
    (8 ≤ "'é' + '\\q'".utf8ByteSize ∧ String.Pos.Raw.IsValid "'é' + '\\q'" ⟨8⟩) ∧
    Parser.parse ⟨.ofLibraries [], {}, .standard⟩ "['é', half(1)]" =
      .error (.unknownFunction "half" 7) ∧
    (7 ≤ "['é', half(1)]".utf8ByteSize ∧ String.Pos.Raw.IsValid "['é', half(1)]" ⟨7⟩) := by
  have hescape : Parser.parse ⟨.ofLibraries [], {}, .standard⟩ "'é' + '\\q'" =
      .error (.invalidEscape 8) := by
    have hread : Lexeme.ofChars "'é' + '\\q'".toList = .error (.invalidEscape 8) := by
      decide +kernel
    rw [Parser.parse, Parser.expression, Grammar.parse, hread]
    rfl
  have hunknown : Parser.parse ⟨.ofLibraries [], {}, .standard⟩ "['é', half(1)]" =
      .error (.unknownFunction "half" 7) := by
    have hread : Lexeme.ofChars "['é', half(1)]".toList =
        .ok ([⟨.symbol .leftBracket, 0, 1⟩, ⟨.string "é", 1, 5⟩, ⟨.symbol .comma, 5, 6⟩,
          ⟨.identifier "half", 7, 11⟩, ⟨.symbol .leftParen, 11, 12⟩,
          ⟨.number (Double.ofInt 1), 12, 13⟩, ⟨.symbol .rightParen, 13, 14⟩,
          ⟨.symbol .rightBracket, 14, 15⟩], 15) := by
      decide +kernel
    rw [Parser.parse, Parser.expression, Grammar.parse_eq hread]
    rfl
  exact ⟨hescape, (parse_error_position hescape).1 8 rfl, hunknown,
    (parse_error_position hunknown).1 7 rfl⟩

end Formula
