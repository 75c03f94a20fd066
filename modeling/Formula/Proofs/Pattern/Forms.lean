import Formula.Builtin.Texts
import Formula.Pattern.Meaning
import Formula.Proofs.Evaluation.Run
import Formula.Proofs.Grammar.Patterns
import Mathlib.Control.Monad.Basic

set_option autoImplicit false

/-!
# Literal and computed patterns

A pattern that is written as a literal is compiled when the source is read, any other when the match is
evaluated, and a call of `match` compiles its second argument. The subject is asked for its text first in
each of them, so they only differ in when a text that is no pattern is refused.

## Main definitions

* `Formula.Expr.subjectText` — the text that the subject of a match shows.
* `Formula.Parser.ReadAs` — what a source text is read as, if its nesting is not too deep.

## Main results

* `Formula.Expr.run_matches_of_pattern` — a match against a literal goes as one against its text.
* `Formula.Parser.readAs_match` — a match is read as what its operands are joined to.
* `Formula.Expr.match_forms_agree` — the three forms have the same values and the same failures.
-/

namespace Formula

/-! ## The subject -/

/-- Whether a value shows a text does not depend on the operation that asks for it. -/
lemma Value.subject_eq_ok_congr {v : Value} {operation : String} {t : String}
    (h : v.subject operation = .ok t) (operation' : String) : v.subject operation' = .ok t := by
  cases v <;> first | exact h | cases h

/-- Texts, numbers, booleans and timestamps show a text. -/
lemma Value.exists_subject {v : Value}
    (h : v.typeName ∈ ["string", "number", "boolean", "timestamp"]) (operation : String) :
    ∃ t, v.subject operation = .ok t := by
  cases v <;> first | exact ⟨_, rfl⟩ | simp [typeName] at h

namespace Expr

variable {s : Surroundings} {state mid final : State} {negated : Bool} {subject computed : Expr}
  {text t : String} {pattern : Pattern} {v w : Value}

/-- The text that the subject of a match shows. -/
def subjectText (s : Surroundings) (negated : Bool) (subject : Expr) : Evaluation String := do
  .ofExcept ((← subject.eval s).subject (matchSymbol negated).text)

/-- A match with a literal shows the subject as a text and tests it. -/
lemma eval_matchesLiteral : (matchesLiteral negated subject text pattern).eval s =
    subjectText s negated subject >>= fun t => pure (s.patterns.test negated pattern t) := by
  rw [eval, subjectText, bind_assoc]

/-- A match with a computed pattern shows the subject as a text, computes the pattern and tests the one
against the other. -/
lemma eval_matchesComputed : (matchesComputed negated subject computed).eval s =
    subjectText s negated subject >>= fun t => computed.eval s >>= fun w =>
      .ofExcept (s.patterns.testComputed negated w t) := by
  rw [eval, subjectText, bind_assoc]

/-- A subject that is shown as a text has a value with that text. -/
lemma exists_of_run_subjectText (h : (subjectText s negated subject).run state = (.ok t, final)) :
    ∃ v, (subject.eval s).run state = (.ok v, final) ∧
      v.subject (matchSymbol negated).text = .ok t := by
  obtain ⟨v, mid, hv, ht⟩ := Evaluation.exists_of_run_bind h
  rw [Evaluation.run_ofExcept] at ht
  obtain ⟨hsubject, rfl⟩ := Prod.mk.inj ht
  exact ⟨v, hv, hsubject⟩

/-- A subject with a value is shown as the text of the value. -/
lemma run_subjectText (hv : (subject.eval s).run state = (.ok v, final)) :
    (subjectText s negated subject).run state =
      (v.subject (matchSymbol negated).text, final) := by
  rw [subjectText, Evaluation.run_bind_of_ok hv, Evaluation.run_ofExcept]

/-- A match and its negation ask for the same text. -/
lemma run_subjectText_not (h : (subjectText s negated subject).run state = (.ok t, final)) :
    (subjectText s (!negated) subject).run state = (.ok t, final) := by
  obtain ⟨v, hv, ht⟩ := exists_of_run_subjectText h
  rw [run_subjectText hv, v.subject_eq_ok_congr ht]

/-! ## Matches -/

/-- The result of a match with a literal, if the subject is shown as a text. -/
lemma run_matchesLiteral_of_text (h : (subjectText s negated subject).run state = (.ok t, final)) :
    ((matchesLiteral negated subject text pattern).eval s).run state =
      (.ok (s.patterns.test negated pattern t), final) := by
  rw [eval_matchesLiteral, Evaluation.run_bind_of_ok h, Evaluation.run_pure]

/-- The result of a match with a computed pattern, if the subject is shown as a text and the pattern has
a value. -/
lemma run_matchesComputed_of_text
    (h : (subjectText s negated subject).run state = (.ok t, mid))
    (hw : (computed.eval s).run mid = (.ok w, final)) :
    ((matchesComputed negated subject computed).eval s).run state =
      (s.patterns.testComputed negated w t, final) := by
  rw [eval_matchesComputed, Evaluation.run_bind_of_ok h, Evaluation.run_bind_of_ok hw,
    Evaluation.run_ofExcept]

/-- What a computed match comes to does not depend on what its pattern does to the flags. -/
lemma run_matchesComputed_fst (h : (subjectText s negated subject).run state = (.ok t, mid))
    (hw : ((computed.eval s).run mid).1 = .ok w) :
    (((matchesComputed negated subject computed).eval s).run state).1 =
      s.patterns.testComputed negated w t := by
  have hrun : (computed.eval s).run mid = (.ok w, ((computed.eval s).run mid).2) := Prod.ext hw rfl
  rw [run_matchesComputed_of_text h hrun]

/-- A match against a literal goes as one against whatever is computed to its text.

**Proof sketch.** If the subject fails, both matches fail so. Otherwise the literal stands for the
pattern that the computed text compiles to, and both test the subject against it. -/
lemma run_matches_of_pattern (hp : s.patterns.compile text = some pattern)
    (hcomputed : ∀ v mid, (subject.eval s).run state = (.ok v, mid) →
      ((computed.eval s).run mid).1 = .ok (.string text)) :
    (((matchesLiteral negated subject text pattern).eval s).run state).1 =
      (((matchesComputed negated subject computed).eval s).run state).1 := by
  rcases ht : (subjectText s negated subject).run state with ⟨r, mid⟩
  cases r with
  | error e =>
    rw [eval_matchesLiteral, eval_matchesComputed, Evaluation.run_bind_of_error ht,
      Evaluation.run_bind_of_error ht]
  | ok t =>
    obtain ⟨v, hv, -⟩ := exists_of_run_subjectText ht
    rw [run_matchesLiteral_of_text ht, run_matchesComputed_fst ht (hcomputed v mid hv)]
    simp only [Pattern.Engine.testComputed, hp]

/-- A text that does not compile is refused once the subject is shown as a text. -/
lemma run_matchesComputed_of_none (hp : s.patterns.compile text = none)
    (hv : (subject.eval s).run state = (.ok v, mid))
    (htype : v.typeName ∈ ["string", "number", "boolean", "timestamp"])
    (hw : ((computed.eval s).run mid).1 = .ok (.string text)) :
    (((matchesComputed negated subject computed).eval s).run state).1 =
      .error (.invalidRegex text) := by
  obtain ⟨t, ht⟩ := v.exists_subject htype (matchSymbol negated).text
  have hsubject : (subjectText s negated subject).run state = (.ok t, mid) := by
    rw [run_subjectText hv, ht]
  rw [run_matchesComputed_fst hsubject hw]
  simp only [Pattern.Engine.testComputed, hp]

end Expr

/-! ## Negation -/

namespace Pattern.Engine

variable {patterns : Engine} {negated b : Bool} {t : String}

/-- A test and its negation have opposite results. -/
lemma test_not (pattern : Pattern) (h : patterns.test negated pattern t = .bool b) :
    patterns.test (!negated) pattern t = .bool !b := by
  cases h
  unfold test
  cases patterns.occursIn pattern t <;> cases negated <;> rfl

/-- A test against a computed pattern and its negation have opposite results.

**Proof sketch.** The pattern has compiled, since the test has a result. So it also compiles for the
negation. -/
lemma testComputed_not {w : Value} (h : patterns.testComputed negated w t = .ok (.bool b)) :
    patterns.testComputed (!negated) w t = .ok (.bool !b) := by
  unfold testComputed at h ⊢
  split at h
  · split at h
    · next pattern _ => simp only [test_not pattern (Except.ok.inj h)]
    · cases h
  · cases h

end Pattern.Engine

namespace Expr

variable {s : Surroundings} {state final : State} {negated b : Bool} {subject : Expr}

/-- What negates the test negates the match, since the subject shows the same text. -/
lemma run_subjectText_bind_not {k k' : String → Evaluation Value}
    (hk : ∀ t mid, (k t).run mid = (.ok (.bool b), final) → (k' t).run mid = (.ok (.bool !b), final))
    (h : (subjectText s negated subject >>= k).run state = (.ok (.bool b), final)) :
    (subjectText s (!negated) subject >>= k').run state = (.ok (.bool !b), final) := by
  obtain ⟨t, mid, ht, h⟩ := Evaluation.exists_of_run_bind h
  rw [Evaluation.run_bind_of_ok (run_subjectText_not ht)]
  exact hk t mid h

/-- A match with a literal and its negation have opposite results. -/
lemma run_matchesLiteral_not {text : String} {pattern : Pattern}
    (h : ((matchesLiteral negated subject text pattern).eval s).run state = (.ok (.bool b), final)) :
    ((matchesLiteral (!negated) subject text pattern).eval s).run state =
      (.ok (.bool !b), final) := by
  rw [eval_matchesLiteral] at h ⊢
  refine run_subjectText_bind_not (fun t mid ht => ?_) h
  rw [Evaluation.run_pure] at ht ⊢
  obtain ⟨htest, rfl⟩ := Prod.mk.inj ht
  rw [Pattern.Engine.test_not pattern (Except.ok.inj htest)]

/-- A match with a computed pattern and its negation have opposite results.

**Proof sketch.** The subject and the pattern are evaluated in the same way, and the tests behind them
are opposite. -/
lemma run_matchesComputed_not {computed : Expr}
    (h : ((matchesComputed negated subject computed).eval s).run state = (.ok (.bool b), final)) :
    ((matchesComputed (!negated) subject computed).eval s).run state = (.ok (.bool !b), final) := by
  rw [eval_matchesComputed] at h ⊢
  refine run_subjectText_bind_not (fun t mid ht => ?_) h
  obtain ⟨w, last, hw, ht⟩ := Evaluation.exists_of_run_bind ht
  rw [Evaluation.run_ofExcept] at ht
  obtain ⟨htest, rfl⟩ := Prod.mk.inj ht
  rw [Evaluation.run_bind_of_ok hw, Evaluation.run_ofExcept, Pattern.Engine.testComputed_not htest]

end Expr

/-! ## Calls of the function -/

namespace Builtin.Texts

/-- The function is the match that is not negated. -/
lemma matching_strings (patterns : Pattern.Engine) (str text : String) :
    matching patterns [.string str, .string text] =
      patterns.testComputed false (.string text) str := by
  have hstr : Argument.string "match" [.string str, .string text] 0 = .ok str := rfl
  have htext : Argument.string "match" [.string str, .string text] 1 = .ok text := rfl
  simp only [matching, hstr, htext, bind, Except.bind, Pattern.Engine.testComputed,
    Pattern.Engine.test, Bool.bne_false]
  cases patterns.compile text <;> rfl

/-- The library of texts has the function `match`. -/
lemma find?_match : library.find? "match" = some (.matching "match" (.fixed 2) matching) := by
  rfl

end Builtin.Texts

namespace Expr

variable {s : Surroundings} {state mid final : State} {a b : Expr} {str text : String}

/-- A match between two texts is a test of the one against the other. -/
lemma run_matchesComputed_strings (ha : (a.eval s).run state = (.ok (.string str), mid))
    (hb : (b.eval s).run mid = (.ok (.string text), final)) :
    ((matchesComputed false a b).eval s).run state =
      (s.patterns.testComputed false (.string text) str, final) :=
  run_matchesComputed_of_text (run_subjectText ha) hb

/-- A call for two texts, in a context that is not done behind them, is the match that is not negated. -/
lemma run_call_match (name : String) (ha : (a.eval s).run state = (.ok (.string str), mid))
    (hb : (b.eval s).run mid = (.ok (.string text), final))
    (hcheck : s.look final = .ok ()) :
    ((call name (.matching "match" (.fixed 2) Builtin.Texts.matching) [a, b]).eval s).run state =
      (s.patterns.testComputed false (.string text) str, final.looked) := by
  have hargs : (evalAll s [a, b]).run state = (.ok [.string str, .string text], final) := by
    simp only [evalAll, Evaluation.run_bind_of_ok ha, Evaluation.run_bind_of_ok hb, bind_assoc, pure_bind,
      Evaluation.run_pure]
  rw [eval, Evaluation.run_bind_of_ok hargs, s.run_checked, hcheck, ← Builtin.Texts.matching_strings]
  exact Evaluation.run_ofExcept _ _

/-- The same for whole formulas, which look at the context first. If it is done there, neither of them goes
on. -/
lemma run_compiled_call_match (name source source' : String) {first : State}
    (ha : (a.eval s).run first.looked = (.ok (.string str), mid))
    (hb : (b.eval s).run mid = (.ok (.string text), final)) (hcheck : s.look final = s.look first) :
    let called := ((Compiled.mk source
      (.call name (.matching "match" (.fixed 2) Builtin.Texts.matching) [a, b])).eval s).run first
    let matched := ((Compiled.mk source' (.matchesComputed false a b)).eval s).run first
    called.1 = matched.1 ∧ called.2.flags = matched.2.flags := by
  intro called matched
  simp only [called, matched, Compiled.eval, s.run_checked]
  cases h : s.look first with
  | error e => exact ⟨rfl, rfl⟩
  | ok u =>
    dsimp only
    rw [run_call_match name ha hb (hcheck.trans h), run_matchesComputed_strings ha hb]
    exact ⟨rfl, rfl⟩

end Expr

/-! ## Reading -/

/-- A source text is read as an expression or refused with an error, unless its nesting is too deep for
the parser, which takes at least as many tokens as the parser has levels. -/
def Parser.ReadAs (p : Parser) (source : String) (tokens : List Lexeme)
    (outcome : Except SyntaxError Expr) : Prop :=
  p.parse source = outcome.map (⟨source, ·⟩) ∨
    p.options.maxDepth ≤ tokens.length ∧ ∃ n pos, p.parse source = .error (.tooDeep n pos)

namespace Parser

variable {p : Parser} {source : String} {tokens : List Lexeme} {stop : Nat} {ts us : List Token}
  {l r : Expr} {negated : Bool}

/-- Matches are on level `5`. -/
lemma level?_matchSymbol (negated : Bool) : (matchSymbol negated).level? = some 5 := by
  cases negated <;> rfl

/-- What a source text is read as under one bound that is greater than the number of its tokens, it is
read as under every bound, unless its nesting is too deep.

**Proof sketch.** Both bounds are at most the greater one of them. A greater bound keeps every result but that
nesting is too deep, and nesting is never too deep where there are fewer tokens than the bound says. -/
lemma readAs_of_expression {outcome : Except SyntaxError Expr} {limit : Nat}
    (hsource : Lexeme.ofChars source.toList = .ok (tokens, stop)) (hlimit : tokens.length < limit)
    (h : Grammar.expression ⟨p.language.resolve, p.patterns.compile, limit, stop⟩ tokens = outcome) :
    p.ReadAs source tokens outcome := by
  let roomy : Grammar := ⟨p.language.resolve, p.patterns.compile, limit, stop⟩
  let g : Grammar := { roomy with limit := p.options.maxDepth }
  let wide : Grammar := { roomy with limit := max limit p.options.maxDepth }
  have hroomy : wide.expression tokens = outcome := by
    have hagree : Grammar.Agree roomy wide := ⟨rfl, rfl⟩
    exact (Grammar.expression_kept hagree.toExtends (Nat.le_max_left _ _) tokens
      (Grammar.expression_notTooDeep hlimit)).trans h
  have hparse : p.parse source = (g.expression tokens).map (⟨source, ·⟩) := by
    rw [parse, Parser.expression, Grammar.parse_eq hsource]
    rfl
  by_cases hn : Grammar.NotTooDeep (g.expression tokens)
  · left
    have hagree : Grammar.Agree g wide := ⟨rfl, rfl⟩
    have hkept := Grammar.expression_kept hagree.toExtends (Nat.le_max_right _ _) tokens hn
    rw [hparse, ← hkept, hroomy]
  · right
    refine ⟨Nat.le_of_not_lt fun h => hn (Grammar.expression_notTooDeep h), ?_⟩
    simp only [Grammar.notTooDeep_iff, not_forall, not_not] at hn
    obtain ⟨n, pos, hn⟩ := hn
    exact ⟨n, pos, by rw [hparse, hn]; rfl⟩

/-- A match is read as what its operands are joined to. -/
lemma readAs_match (hsource : Lexeme.ofChars source.toList = .ok (tokens, stop))
    (htokens : tokens.map Lexeme.token = ts ++ .symbol (matchSymbol negated) :: us)
    (hl : Grammar.Derives p.language.resolve p.patterns.compile (.level 5) ts l)
    (hr : Grammar.Derives p.language.resolve p.patterns.compile (.level 6) us r) :
    p.ReadAs source tokens
      (Grammar.combine ⟨p.language.resolve, p.patterns.compile, tokens.length + 1, stop⟩
        (matchSymbol negated) 0 l r) :=
  readAs_of_expression hsource (Nat.lt_succ_self _)
    (Grammar.expression_of_operands (by decide) (level?_matchSymbol negated) hl hr htokens
      (Nat.lt_succ_self _) 0)

/-- An expression with matches anywhere in it is read with the patterns of their literals, or one of
these is refused.

**Proof sketch.** Both parts are about the grammar with a bound beyond all tokens
(`expression_of_patterns` and `expression_of_no_pattern`), and under the parser's own bound the text is
read alike or is nested too deeply. -/
lemma readAs_of_lenient {e : Expr} (hsource : Lexeme.ofChars source.toList = .ok (tokens, stop))
    (he : Grammar.Derives p.language.resolve (Grammar.lenient p.patterns.compile) .conditional
      (tokens.map Lexeme.token) e) :
    ((∀ text, e.PatternText text → p.patterns.compile text ≠ none) →
      p.ReadAs source tokens (.ok e)) ∧
    ∀ text, e.PatternText text → p.patterns.compile text = none →
      ∃ refused, e.PatternText refused ∧ p.patterns.compile refused = none ∧
        p.ReadAs source tokens (.error (.invalidRegex refused)) := by
  let g : Grammar := ⟨p.language.resolve, p.patterns.compile, tokens.length + 1, stop⟩
  have hlimit : tokens.length < g.limit := Nat.lt_succ_self _
  refine ⟨fun hall => ?_, fun text htext hnone => ?_⟩
  · exact readAs_of_expression hsource hlimit (Grammar.expression_of_patterns (g := g) he hlimit hall)
  · obtain ⟨refused, hin, hrefused, hread⟩ :=
      Grammar.expression_of_no_pattern (g := g) he hlimit htext hnone
    exact ⟨refused, hin, hrefused, readAs_of_expression hsource hlimit hread⟩

end Parser

/-! ## All forms -/

/-- **Literal and computed patterns agree**, whatever library of regular expressions reads and evaluates
them.

1. A match against a literal is read with the pattern that the literal is, or refused for it, and any
   other match is read with its pattern to be computed.
2. So it is anywhere in an expression, inside of brackets, arguments and other operators: what would be
   read if all texts were patterns is read if its literal patterns are, and refused for one of them that
   is not.
3. If the pattern is computed to the same text, both matches have the same value or the same failure; and
   if the text is no pattern, the computed match fails for it wherever its subject shows a text.
4. A match has a boolean for its value exactly if its negation has the other one.
5. A call of the function `match` for two texts is the match of the first against the second, in every
   context that evaluating them does not end.

**Proof sketch.** All matches ask their subject for its text before they have to do with their pattern,
and `testComputed` of the text of a pattern tests that pattern. The reader is that of the grammar in which
all texts are patterns, but for the refusals. -/
theorem Expr.match_forms_agree (patterns : Pattern.Engine) (text : String) :
    (∀ (p : Parser) (source : String) (negated : Bool) (tokens : List Lexeme) (stop : Nat)
        (ts us : List Token) (subject : Expr), p.patterns = patterns →
      Lexeme.ofChars source.toList = .ok (tokens, stop) →
      tokens.map Lexeme.token = ts ++ .symbol (matchSymbol negated) :: us →
      Grammar.Derives p.language.resolve patterns.compile (.level 5) ts subject →
      (Grammar.Derives p.language.resolve patterns.compile (.level 6) us (.literal (.string text)) →
        p.ReadAs source tokens (match patterns.compile text with
          | some pattern => .ok (.matchesLiteral negated subject text pattern)
          | none => .error (.invalidRegex text))) ∧
      ∀ computed : Expr, (∀ t, computed ≠ .literal (.string t)) →
        Grammar.Derives p.language.resolve patterns.compile (.level 6) us computed →
        p.ReadAs source tokens (.ok (.matchesComputed negated subject computed))) ∧
    (∀ (p : Parser) (source : String) (tokens : List Lexeme) (stop : Nat) (e : Expr),
        p.patterns = patterns →
      Lexeme.ofChars source.toList = .ok (tokens, stop) →
      Grammar.Derives p.language.resolve (Grammar.lenient patterns.compile) .conditional
        (tokens.map Lexeme.token) e →
      ((∀ literal, e.PatternText literal → patterns.compile literal ≠ none) →
        p.ReadAs source tokens (.ok e)) ∧
      (e.PatternText text → patterns.compile text = none →
        ∃ refused, e.PatternText refused ∧ patterns.compile refused = none ∧
          p.ReadAs source tokens (.error (.invalidRegex refused)))) ∧
    (∀ (s : Surroundings) (state : State) (negated : Bool) (subject computed : Expr),
        s.patterns = patterns →
      (∀ v mid, (subject.eval s).run state = (.ok v, mid) →
        ((computed.eval s).run mid).1 = .ok (.string text)) →
      (∀ pattern, patterns.compile text = some pattern →
        (((Expr.matchesLiteral negated subject text pattern).eval s).run state).1 =
          (((Expr.matchesComputed negated subject computed).eval s).run state).1) ∧
      (patterns.compile text = none → ∀ v mid, (subject.eval s).run state = (.ok v, mid) →
        v.typeName ∈ ["string", "number", "boolean", "timestamp"] →
        (((Expr.matchesComputed negated subject computed).eval s).run state).1 =
          .error (.invalidRegex text))) ∧
    (∀ (s : Surroundings) (state final : State) (subject : Expr) (b : Bool),
      (∀ pattern,
        ((Expr.matchesLiteral false subject text pattern).eval s).run state = (.ok (.bool b), final) ↔
        ((Expr.matchesLiteral true subject text pattern).eval s).run state =
          (.ok (.bool !b), final)) ∧
      ∀ computed : Expr,
        ((Expr.matchesComputed false subject computed).eval s).run state = (.ok (.bool b), final) ↔
        ((Expr.matchesComputed true subject computed).eval s).run state =
          (.ok (.bool !b), final)) ∧
    ∀ (d : Definition) (name : String) (s : Surroundings) (state mid final : State) (a b : Expr)
        (str : String), Builtin.Texts.library.find? "match" = some d →
      (a.eval s).run state = (.ok (.string str), mid) →
      (b.eval s).run mid = (.ok (.string text), final) →
      (s.look final = .ok () →
        ((Expr.call name d [a, b]).eval s).run state =
          ((((Expr.matchesComputed false a b).eval s).run state).1, final.looked) ∧
        (((Expr.matchesComputed false a b).eval s).run state).2 = final) ∧
      ∀ (first : State) (source source' : String), state = first.looked →
        s.look final = s.look first →
        let called := ((Compiled.mk source (.call name d [a, b])).eval s).run first
        let matched := ((Compiled.mk source' (.matchesComputed false a b)).eval s).run first
        called.1 = matched.1 ∧ called.2.flags = matched.2.flags := by
  refine ⟨?operands, ?anywhere, ?values, ?negation, ?function⟩
  case operands =>
    rintro p source negated tokens stop ts us subject rfl hsource htokens hl
    refine ⟨fun hr => ?_, fun computed hcomputed hr => ?_⟩
    · have h := Parser.readAs_match hsource htokens hl hr
      rwa [Grammar.combine_match] at h
    · have h := Parser.readAs_match hsource htokens hl hr
      rw [Grammar.combine_match] at h
      split at h
      · next t => exact absurd rfl (hcomputed t)
      · exact h
  case anywhere =>
    rintro p source tokens stop e rfl hsource he
    obtain ⟨hread, hrefused⟩ := Parser.readAs_of_lenient hsource he
    exact ⟨hread, hrefused text⟩
  case values =>
    rintro s state negated subject computed rfl hcomputed
    exact ⟨fun pattern hp => Expr.run_matches_of_pattern hp hcomputed,
      fun hp v mid hv htype => Expr.run_matchesComputed_of_none hp hv htype (hcomputed v mid hv)⟩
  case negation =>
    -- Negating twice is not to negate, so one direction is enough.
    intro s state final subject b
    refine ⟨fun pattern => ⟨Expr.run_matchesLiteral_not, fun h => ?_⟩,
      fun computed => ⟨Expr.run_matchesComputed_not, fun h => ?_⟩⟩
    · simpa only [Bool.not_not, Bool.not_true] using Expr.run_matchesLiteral_not h
    · simpa only [Bool.not_not, Bool.not_true] using Expr.run_matchesComputed_not h
  case function =>
    intro d name s state mid final a b str hd ha hb
    obtain rfl := Option.some.inj (Builtin.Texts.find?_match.symm.trans hd)
    refine ⟨fun hcheck => ?_, fun first source source' hfirst hcheck => ?_⟩
    · rw [Expr.run_call_match name ha hb hcheck, Expr.run_matchesComputed_strings ha hb]
      exact ⟨rfl, rfl⟩
    · subst hfirst
      exact Expr.run_compiled_call_match name source source' ha hb hcheck

/-- `x !~ "a"` with `cat` for `x`, `[x =~ "("]`, and `match(x, p)` with `a` for `p`.

**Proof sketch.** The texts are parsed by the part about literals, and by the one about patterns that
are refused. The runs are evaluated. -/
theorem Expr.match_forms_agree_cat :
    let p : Parser := ⟨.ofLibraries [Builtin.Texts.library], {}, .standard⟩
    let s : Surroundings :=
      ⟨⟨0, none⟩, fun _ => 0, .standard, fun name => some (.string (if name = "x" then "cat" else "a"))⟩
    let d : Definition := .matching "match" (.fixed 2) Builtin.Texts.matching
    p.parse "x !~ \"a\"" =
      .ok ⟨"x !~ \"a\"", .matchesLiteral true (.var "x") "a" (.oneOf ⟨#[(97, 97)]⟩)⟩ ∧
    p.parse "[x =~ \"(\"]" = .error (.invalidRegex "(") ∧
    (((matchesLiteral true (.var "x") "a" (.oneOf ⟨#[(97, 97)]⟩)).eval s).run {}).1 =
      (((matchesComputed true (.var "x") (.var "p")).eval s).run {}).1 ∧
    ((matchesLiteral true (.var "x") "a" (.oneOf ⟨#[(97, 97)]⟩)).eval s).run {} =
      (.ok (.bool false), {}) ∧
    (((Compiled.mk "match(x, p)" (.call "match" d [.var "x", .var "p"])).eval s).run {}).1 =
      (((Compiled.mk "x =~ p" (.matchesComputed false (.var "x") (.var "p"))).eval s).run {}).1 := by
  intro p s d
  have hx (compile : String → Option Pattern) :
      Grammar.Derives p.language.resolve compile (.level 5) [.identifier "x"] (.var "x") :=
    (Grammar.Derives.signed (.accessed (.primary (.variable "x")))).level_mono (by decide)
  have hliteral (compile : String → Option Pattern) (text : String) :
      Grammar.Derives p.language.resolve compile (.level 6) [.string text] (.literal (.string text)) :=
    (Grammar.Derives.signed (.accessed (.primary (.literal rfl)))).level_mono (by decide)
  have hnot : Lexeme.ofChars "x !~ \"a\"".toList =
      .ok ([⟨.identifier "x", 0, 1⟩, ⟨.symbol .isNotMatch, 2, 4⟩, ⟨.string "a", 5, 8⟩], 8) := by
    decide +kernel
  have hparen : Lexeme.ofChars "[x =~ \"(\"]".toList =
      .ok ([⟨.symbol .leftBracket, 0, 1⟩, ⟨.identifier "x", 1, 2⟩, ⟨.symbol .isMatch, 3, 5⟩,
        ⟨.string "(", 6, 9⟩, ⟨.symbol .rightBracket, 9, 10⟩], 10) := by
    decide +kernel
  have hmatch : Grammar.Derives p.language.resolve (Grammar.lenient p.patterns.compile) .conditional
      [.identifier "x", .symbol .isMatch, .string "("] (.matchesLiteral false (.var "x") "(" .empty) :=
    .operand ((Grammar.Derives.chain (k := 5) (by decide) (by decide) (hx _) (hliteral _ "(")
      (.matchesLiteral false (.var "x") "(" .empty rfl)).level_mono (by decide))
  have hlist : Grammar.Derives p.language.resolve (Grammar.lenient p.patterns.compile) .conditional
      [.symbol .leftBracket, .identifier "x", .symbol .isMatch, .string "(", .symbol .rightBracket]
      (.array [.matchesLiteral false (.var "x") "(" .empty]) :=
    .operand ((Grammar.Derives.signed (.accessed (.primary (@Grammar.Derives.array _ _
      [([.identifier "x", .symbol .isMatch, .string "("], _)] _
      (List.forall_mem_singleton.mpr hmatch) (.last _))))).level_mono (by decide))
  have ha : Pattern.ofText? "a" = some (.oneOf ⟨#[(97, 97)]⟩) := rfl
  obtain ⟨hread, -, hvalues, hnegation, hfunction⟩ := match_forms_agree .standard "a"
  refine ⟨?_, ?_, ?_, ?_, ?_⟩
  · rcases (hread p _ true _ _ _ _ _ rfl hnot rfl (hx _)).1 (hliteral _ "a") with h | h
    · exact h
    · exact absurd h.1 (by decide)
  · obtain ⟨-, hanywhere, -⟩ := match_forms_agree .standard "("
    obtain ⟨refused, ⟨_, _, _, hin⟩, -, h | h⟩ :=
      (hanywhere p _ _ _ _ rfl hparen hlist).2 ⟨false, .var "x", .empty, by simp [nodes, nodesAll]⟩ rfl
    · simp only [nodes, nodesAll, List.append_nil, List.mem_cons, reduceCtorEq, List.not_mem_nil,
        or_false, false_or, matchesLiteral.injEq] at hin
      rw [h, hin.2.2.1]
      rfl
    · exact absurd h.1 (by decide)
  · refine (hvalues s {} true (.var "x") (.var "p") rfl fun v mid h => ?_).1 _ ha
    rfl
  · exact ((hnegation s {} {} (.var "x") true).1 _).mp (by rfl)
  · exact ((hfunction d "match" s ⟨{}, 1⟩ ⟨{}, 1⟩ ⟨{}, 1⟩ (.var "x") (.var "p") "cat"
      Builtin.Texts.find?_match rfl rfl).2 {} _ _ rfl rfl).1

end Formula
