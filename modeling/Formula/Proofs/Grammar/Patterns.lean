import Formula.Proofs.Grammar.Completeness
import Formula.Proofs.Grammar.WellFormed

set_option autoImplicit false

/-!
# Texts that are no patterns

Wherever in an expression a text literal is the pattern of a match, be it inside of brackets, in an
argument or under other operators, the text has to be a pattern. The rest of the grammar does not
depend on which texts are patterns, so it can be asked what a source text would be read as if all of
them were. The reader then reads just that, or refuses one of the texts.

## Main definitions

* `Formula.Expr.PatternText` — a text is the literal pattern of a match in an expression.
* `Formula.Grammar.lenient` — patterns for all texts.

## Main results

* `Formula.Grammar.Derives.with_patterns` — what is derived does not depend on texts that are not in it.
* `Formula.Grammar.expression_of_patterns` — tokens are read if all literal patterns are patterns.
* `Formula.Grammar.expression_of_no_pattern` — tokens are refused for one that is not.
-/

namespace Formula

/-- A text is the literal pattern of a match somewhere in an expression. -/
def Expr.PatternText (e : Expr) (text : String) : Prop :=
  ∃ negated subject pattern, Expr.matchesLiteral negated subject text pattern ∈ e.nodes

/-- A node is no match against a literal, or its pattern is the one that `compile` has for its text. -/
def Expr.PatternOf (compile : String → Option Pattern) (node : Expr) : Prop :=
  ∀ negated subject text pattern,
    node = .matchesLiteral negated subject text pattern → compile text = some pattern

namespace Grammar

variable {resolve : String → Option Definition} {compile compile' : String → Option Pattern}
  {n : Nonterminal} {s : Symbol} {ts : List Token} {e l r : Expr} {text : String}

/-- Patterns for all texts: those of `compile`, and one more for all other texts. -/
def lenient (compile : String → Option Pattern) (text : String) : Option Pattern :=
  some ((compile text).getD .empty)

/-! ## Other patterns -/

/-- The patterns of an expression are those that it is derived with. -/
lemma Derives.patternOf (h : Derives resolve compile n ts e) :
    ∀ node ∈ e.nodes, node.PatternOf compile := by
  rintro _ hnode negated subject text pattern rfl
  exact (h.wellFormed _ hnode).1

/-- An operator joins its operands as before if its pattern stays what it is. -/
lemma Joined.with_patterns (h : Joined compile s l r e) (he : e.PatternOf compile') :
    Joined compile' s l r e := by
  cases h with
  | coalesce => exact .coalesce l r
  | or => exact .or l r
  | and => exact .and l r
  | matchesLiteral negated _ text pattern =>
    exact .matchesLiteral negated l text pattern (he negated l text pattern rfl)
  | matchesComputed negated _ _ hr => exact .matchesComputed negated l r hr
  | binary op => exact .binary op l r

/-- The nodes of the operands are among those of the expression that they are joined to, unless one is
the literal that became a pattern. -/
lemma Joined.forall_nodes {Q : Expr → Prop} (h : Joined compile s l r e) (he : ∀ node ∈ e.nodes, Q node)
    (hliteral : ∀ text, Q (.literal (.string text))) :
    Q e ∧ (∀ node ∈ l.nodes, Q node) ∧ ∀ node ∈ r.nodes, Q node := by
  cases h with
  | coalesce | or | and | matchesComputed | binary =>
    simpa only [Expr.nodes, List.forall_mem_cons, List.forall_mem_append] using he
  | matchesLiteral =>
    simp only [Expr.nodes, List.forall_mem_cons] at he ⊢
    exact ⟨he.1, he.2, hliteral _, List.forall_mem_nil _⟩

/-- What tokens derive stays derived with other patterns, as long as its own patterns stay what they are.

**Proof sketch.** Induction on the derivation. The nodes of the parts are among those of the whole, and the
one production that asks for a pattern is a match, whose pattern is in a node of the whole. -/
lemma Derives.with_patterns (h : Derives resolve compile n ts e)
    (he : ∀ node ∈ e.nodes, node.PatternOf compile') : Derives resolve compile' n ts e := by
  induction h with
  | literal hv => exact .literal hv
  | «variable» name => exact .variable name
  | call hname harity _ hts ih =>
    simp only [Expr.nodes, List.forall_mem_cons] at he
    refine .call hname harity (fun p hp => ih p hp fun node hnode => he.2 node ?_) hts
    exact Expr.mem_nodesAll.mpr ⟨p.2, List.mem_map_of_mem hp, hnode⟩
  | array _ hts ih =>
    simp only [Expr.nodes, List.forall_mem_cons] at he
    refine .array (fun p hp => ih p hp fun node hnode => he.2 node ?_) hts
    exact Expr.mem_nodesAll.mpr ⟨p.2, List.mem_map_of_mem hp, hnode⟩
  | map hkeys _ hts ih =>
    simp only [Expr.nodes, List.forall_mem_cons] at he
    refine .map hkeys (fun x hx => ih x hx fun node hnode => he.2 node ?_) hts
    exact Expr.mem_nodesEntries.mpr ⟨(x.key, x.value), List.mem_map_of_mem hx, hnode⟩
  | parentheses _ ih => exact .parentheses (ih he)
  | primary _ ih => exact .primary (ih he)
  | member _ name ih =>
    simp only [Expr.nodes, List.forall_mem_cons] at he
    exact .member (ih he.2) name
  | index _ _ ih ihp =>
    simp only [Expr.nodes, List.forall_mem_cons, List.forall_mem_append] at he
    exact .index (ih he.2.1) (ihp he.2.2)
  | accessed _ ih => exact .accessed (ih he)
  -- There is no pattern in a number.
  | negative _ ih =>
    refine .negative (ih ?_)
    rintro _ hnode _ _ _ _ rfl
    simp [Expr.nodes] at hnode
  | unary op _ hop ih =>
    simp only [Expr.nodes, List.forall_mem_cons] at he
    exact .unary op (ih he.2) hop
  | signed _ ih => exact .signed (ih he)
  | tighter _ ih => exact .tighter (ih he)
  | chain hk hs _ _ hjoined ihl ihr =>
    obtain ⟨htop, hleft, hright⟩ := hjoined.forall_nodes he (by rintro _ _ _ _ _ ⟨⟩)
    exact .chain hk hs (ihl hleft) (ihr hright) (hjoined.with_patterns htop)
  | power _ _ ihl ihr =>
    simp only [Expr.nodes, List.forall_mem_cons, List.forall_mem_append] at he
    exact .power (ihl he.2.1) (ihr he.2.2)
  | operand _ ih => exact .operand (ih he)
  | conditional _ _ _ iht ihp ihn =>
    simp only [Expr.nodes, List.forall_mem_cons, List.forall_mem_append] at he
    exact .conditional (iht he.2.1) (ihp he.2.2.1) (ihn he.2.2.2)

/-! ## Reading -/

/-- Errors that more patterns may do away with. -/
def Removable (compile compile' : String → Option Pattern) (e : SyntaxError) : Prop :=
  TooDeep e ∨ ∃ text, e = .invalidRegex text ∧ compile text = none ∧ compile' text ≠ none

variable {g : Grammar} {tokens : List Lexeme}

/-- More patterns only do away with refusals of texts that were no patterns before.

**Proof sketch.** A text is asked for in a match only. If it was a pattern, it is the same pattern; if it
was none and its refusal lasts, it is none now. -/
lemma extends_of_patterns
    (h : ∀ text pattern, g.compile text = some pattern → compile' text = some pattern) :
    Extends (Removable g.compile compile') g { g with compile := compile' } where
  resolve_eq := rfl
  tooDeep limit pos := .inl ⟨limit, pos, rfl⟩
  combine_kept s pos l r := by
    have hliteral (negated : Bool) (text : String) :
        Kept (Removable g.compile compile') (combine.literalMatch g l negated text)
          (combine.literalMatch { g with compile := compile' } l negated text) := by
      intro hn
      unfold combine.literalMatch at hn ⊢
      cases hp : g.compile text with
      | some pattern => simp only [h text pattern hp]
      | none =>
        simp only [hp] at hn
        have hp' : compile' text = none := by
          by_contra hne
          exact hn _ rfl (.inr ⟨text, rfl, hp, hne⟩)
        simp only [hp']
    unfold combine
    split
    case h_4 | h_5 => exact hliteral _ _
    all_goals exact fun _ => rfl

/-- Tokens are read as they would be if all texts were patterns, if all literal patterns are. -/
theorem expression_of_patterns
    (h : Derives g.resolve (lenient g.compile) .conditional (tokens.map Lexeme.token) e)
    (hlimit : tokens.length < g.limit) (hall : ∀ text, e.PatternText text → g.compile text ≠ none) :
    g.expression tokens = .ok e := by
  refine expression_of_derives (h.with_patterns ?_) hlimit
  rintro _ hnode negated subject text pattern rfl
  have hlenient := h.patternOf _ hnode negated subject text pattern rfl
  obtain ⟨known, hknown⟩ := Option.ne_none_iff_exists'.mp (hall text ⟨negated, subject, pattern, hnode⟩)
  rw [lenient, hknown, Option.getD_some] at hlenient
  rw [hknown, hlenient]

/-- Tokens are refused for one of the literal patterns if there is one that is no pattern.

**Proof sketch.** Let just the literal patterns of the expression be patterns as well. Then the tokens are
read, so without them they are read too, or refused with an error that these patterns do away with. They
are not read, since an expression that is read has patterns only; and nesting is not too deep. So the text
of such a pattern is refused. -/
theorem expression_of_no_pattern
    (h : Derives g.resolve (lenient g.compile) .conditional (tokens.map Lexeme.token) e)
    (hlimit : tokens.length < g.limit) (htext : e.PatternText text)
    (hnone : g.compile text = none) :
    ∃ refused, e.PatternText refused ∧ g.compile refused = none ∧
      g.expression tokens = .error (.invalidRegex refused) := by
  classical
  let widened : String → Option Pattern := fun text =>
    if e.PatternText text then lenient g.compile text else g.compile text
  have hwidened (text : String) (pattern : Pattern) (hp : g.compile text = some pattern) :
      widened text = some pattern := by
    simp only [widened, lenient, hp, Option.getD_some, ite_self]
  have hread : Grammar.expression { g with compile := widened } tokens = .ok e := by
    refine expression_of_derives (h.with_patterns ?_) hlimit
    rintro _ hnode negated subject text pattern rfl
    have hlenient := h.patternOf _ hnode negated subject text pattern rfl
    have hin : e.PatternText text := ⟨negated, subject, pattern, hnode⟩
    simpa only [widened, if_pos hin] using hlenient
  have hkept := expression_kept (extends_of_patterns hwidened) (Nat.le_refl _) tokens
  -- Either the text is read in the same way with fewer patterns, or this shows in its refusal.
  by_cases hlasting : Lasting (Removable g.compile widened) (g.expression tokens)
  · have hderives := derives_of_expression ((hkept hlasting).symm.trans hread)
    obtain ⟨negated, subject, pattern, hnode⟩ := htext
    have hpattern := hderives.patternOf _ hnode negated subject text pattern rfl
    rw [hnone] at hpattern
    cases hpattern
  · simp only [Lasting, not_forall, not_not] at hlasting
    obtain ⟨err, herr, hdeep | ⟨refused, rfl, hrefused, hknown⟩⟩ := hlasting
    · exact absurd hdeep (expression_notTooDeep hlimit err herr)
    · refine ⟨refused, ?_, hrefused, herr⟩
      by_contra hout
      exact hknown (by simpa only [widened, if_neg hout] using hrefused)

end Grammar

end Formula
