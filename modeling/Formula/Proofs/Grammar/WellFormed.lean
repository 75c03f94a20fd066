import Formula.Builtin.General
import Formula.Parser
import Formula.Pattern.Meaning
import Formula.Proofs.Evaluation.Replacement
import Formula.Proofs.Grammar.Soundness
import Mathlib.Control.Monad.Basic

set_option autoImplicit false

/-!
# Expressions that are read are well formed

What is decided once, when a source text is read, holds of every node of its expression: which
function a call stands for and whether it takes that many arguments, which patterns are literals,
and that a minus in front of a number is part of the number. So evaluation does not have to decide
it again, and the check of the number of arguments that it still makes never fails.

## Main definitions

* `Formula.Grammar.CallIn`, `Formula.Grammar.MatchIn` — where a call or a match is written.
* `Formula.Expr.WellFormed` — what a node has to meet.
* `Formula.Definition.unchecked` — a function that takes any number of arguments.

## Main results

* `Formula.Grammar.Derives.wellFormed` — all nodes of a derived expression are well formed.
* `Formula.Expr.eval_replace_unchecked` — without the check the value is the same.
* `Formula.Parser.wellFormed_of_parse` — both, for source texts.
-/

namespace Formula

namespace Grammar

/-- Somewhere among tokens `e` is written as a call of `name`: the name, a parenthesis, what is
inside, and the closing parenthesis. -/
def CallIn (resolve : String → Option Definition) (compile : String → Option Pattern)
    (tokens : List Token) (name : String) (e : Expr) : Prop :=
  ∃ inside,
    .identifier name :: .symbol .leftParen :: (inside ++ [.symbol .rightParen]) <:+: tokens ∧
    Derives resolve compile .primary
      (.identifier name :: .symbol .leftParen :: (inside ++ [.symbol .rightParen])) e

/-- Somewhere among tokens a match, perhaps negated, is written between operands that stand for
`left` and `right`. -/
def MatchIn (resolve : String → Option Definition) (compile : String → Option Pattern)
    (tokens : List Token) (negated : Bool) (left right : Expr) : Prop :=
  ∃ ts us, ts ++ .symbol (matchSymbol negated) :: us <:+: tokens ∧
    Derives resolve compile (.level 5) ts left ∧ Derives resolve compile (.level 6) us right

end Grammar

/-- What a node has to meet, where `resolve` says which functions there are, `compile` which patterns,
and `tokens` are those of the source. A call holds the function that the name written there stands for,
and arguments it takes. A minus does not stand in front of a number. A pattern is a literal if a text
literal is written as the right operand of its match, and then it is the pattern that the text is;
otherwise it is computed. -/
def Expr.WellFormed (resolve : String → Option Definition) (compile : String → Option Pattern)
    (tokens : List Token) (node : Expr) : Prop :=
  match node with
  | .call name definition args =>
    resolve name = some definition ∧ definition.arity.accepts args.length = true ∧
      Grammar.CallIn resolve compile tokens name (.call name definition args)
  | .unary op operand => op = .negate → ∀ x, operand ≠ .literal (.number x)
  | .matchesLiteral negated subject text pattern =>
    compile text = some pattern ∧
      Grammar.MatchIn resolve compile tokens negated subject (.literal (.string text))
  | .matchesComputed negated subject pattern =>
    (∀ text, pattern ≠ .literal (.string text)) ∧
      Grammar.MatchIn resolve compile tokens negated subject pattern
  | _ => True

/-! ## More tokens around a node -/

variable {resolve : String → Option Definition} {compile : String → Option Pattern}
  {ts us vs : List Token} {e l r : Expr}

/-- A node stays well formed when more tokens are written around it.

**Proof sketch.** What is written among some tokens is written among more tokens. -/
lemma Expr.WellFormed.mono {node : Expr} (h : node.WellFormed resolve compile ts) (hts : ts <:+: us) :
    node.WellFormed resolve compile us := by
  cases node with
  | call =>
    obtain ⟨hname, harity, inside, hin, hd⟩ := h
    exact ⟨hname, harity, inside, hin.trans hts, hd⟩
  | matchesLiteral | matchesComputed =>
    obtain ⟨hpattern, left, right, hin, hd⟩ := h
    exact ⟨hpattern, left, right, hin.trans hts, hd⟩
  | unary => exact h
  | _ => trivial

namespace Grammar

/-- The nodes of a part stay well formed in the whole. -/
lemma nodes_mono (h : ∀ node ∈ e.nodes, node.WellFormed resolve compile ts) (hts : ts <:+: us) :
    ∀ node ∈ e.nodes, node.WellFormed resolve compile us :=
  fun node hnode => (h node hnode).mono hts

/-- What stands in front is part of the whole. -/
lemma isInfix_before : ts <:+: ts ++ us :=
  (List.prefix_append ts us).isInfix

/-- A part of what stands behind a token is part of the whole. -/
lemma isInfix_behind {t : Token} (h : us <:+: vs) : us <:+: ts ++ t :: vs :=
  h.trans ⟨ts ++ [t], [], by simp⟩

/-- The parts of a list are written in it.

**Proof sketch.** Induction on the list. -/
lemma Separated.isInfix_of_mem {parts : List (List Token)} (h : Separated parts ts) {p : List Token}
    (hp : p ∈ parts) : p <:+: ts := by
  induction h with
  | none => cases hp
  | last =>
    obtain rfl := List.mem_singleton.mp hp
    exact List.infix_rfl
  | more first _ ih =>
    obtain rfl | hp := List.mem_cons.mp hp
    · exact isInfix_before
    · exact isInfix_behind (ih hp)

/-- The nodes of the parts of a list. -/
lemma wellFormed_of_parts {parts : List (List Token × Expr)}
    (hts : Separated (parts.map Prod.fst) ts) (htsus : ts <:+: us)
    (h : ∀ p ∈ parts, ∀ node ∈ p.2.nodes, node.WellFormed resolve compile p.1) :
    ∀ node ∈ Expr.nodesAll (parts.map Prod.snd), node.WellFormed resolve compile us := by
  intro node hnode
  obtain ⟨_, hmem, hnode⟩ := Expr.mem_nodesAll.mp hnode
  obtain ⟨p, hp, rfl⟩ := List.mem_map.mp hmem
  exact (h p hp node hnode).mono ((hts.isInfix_of_mem (List.mem_map_of_mem hp)).trans htsus)

/-- The nodes of the values of entries.

**Proof sketch.** The value of an entry is written in the entry, and the entry in the list. -/
lemma wellFormed_of_entries {entries : List Entry}
    (hts : Separated (entries.map Entry.written) ts) (htsus : ts <:+: us)
    (h : ∀ x ∈ entries, ∀ node ∈ x.value.nodes, node.WellFormed resolve compile x.tokens) :
    ∀ node ∈ Expr.nodesEntries (entries.map fun x => (x.key, x.value)),
      node.WellFormed resolve compile us := by
  intro node hnode
  obtain ⟨_, hmem, hnode⟩ := Expr.mem_nodesEntries.mp hnode
  obtain ⟨x, hx, rfl⟩ := List.mem_map.mp hmem
  have hwritten : x.tokens <:+: x.written := ⟨[x.word, .symbol .colon], [], by simp [Entry.written]⟩
  exact (h x hx node hnode).mono
    ((hwritten.trans (hts.isInfix_of_mem (List.mem_map_of_mem hx))).trans htsus)

/-! ## Derived expressions -/

/-- Matches are on level `5`. -/
lemma level_of_matchSymbol {negated : Bool} {k : Nat} (h : matchSymbol negated ∈ operatorsOf k) :
    k = 5 := by
  have hlevel := mem_operatorsOf.mp h
  cases negated <;> exact (Option.some.inj hlevel).symm

/-- An operator puts one node on top of those of its operands.

**Proof sketch.** The nodes of the operands stay well formed. Only a match puts something on top that
more is asked of. -/
lemma Joined.wellFormed {s : Symbol} {k : Nat} (h : Joined compile s l r e) (hs : s ∈ operatorsOf k)
    (hl : Derives resolve compile (.level k) ts l) (hr : Derives resolve compile (.level (k + 1)) us r)
    (hleft : ∀ node ∈ l.nodes, node.WellFormed resolve compile (ts ++ .symbol s :: us))
    (hright : ∀ node ∈ r.nodes, node.WellFormed resolve compile (ts ++ .symbol s :: us)) :
    ∀ node ∈ e.nodes, node.WellFormed resolve compile (ts ++ .symbol s :: us) := by
  cases h with
  | coalesce | or | and | binary =>
    simp only [Expr.nodes, List.forall_mem_cons, List.forall_mem_append]
    exact ⟨trivial, hleft, hright⟩
  | matchesLiteral negated _ text pattern hpattern =>
    obtain rfl := level_of_matchSymbol hs
    simp only [Expr.nodes, List.forall_mem_cons]
    exact ⟨⟨hpattern, ts, us, List.infix_rfl, hl, hr⟩, hleft⟩
  | matchesComputed negated _ _ hpattern =>
    obtain rfl := level_of_matchSymbol hs
    simp only [Expr.nodes, List.forall_mem_cons, List.forall_mem_append]
    exact ⟨⟨hpattern, ts, us, List.infix_rfl, hl, hr⟩, hleft, hright⟩

/-- All nodes of a derived expression are well formed.

**Proof sketch.** Induction on the derivation. The nodes of the parts stay well formed, as the
tokens of the parts are among those of the whole, and each production adds at most one node. -/
theorem Derives.wellFormed {n : Nonterminal} (h : Derives resolve compile n ts e) :
    ∀ node ∈ e.nodes, node.WellFormed resolve compile ts := by
  -- What is known of a part carries over, because the part is written within the whole.
  induction h with
  | literal | «variable» | negative => exact List.forall_mem_singleton.mpr trivial
  | @call _ _ _ ts hname harity hparts hts ih =>
    rw [Expr.nodes, List.forall_mem_cons]
    exact ⟨⟨hname, by simpa using harity, ts, List.infix_rfl, .call hname harity hparts hts⟩,
      wellFormed_of_parts hts (List.infix_cons (List.infix_cons isInfix_before)) ih⟩
  | array _ hts ih =>
    rw [Expr.nodes, List.forall_mem_cons]
    exact ⟨trivial, wellFormed_of_parts hts (List.infix_cons isInfix_before) ih⟩
  | map _ _ hts ih =>
    rw [Expr.nodes, List.forall_mem_cons]
    exact ⟨trivial, wellFormed_of_entries hts (List.infix_cons isInfix_before) ih⟩
  | parentheses _ ih => exact nodes_mono ih (List.infix_cons isInfix_before)
  | primary _ ih | accessed _ ih | signed _ ih | tighter _ ih | operand _ ih => exact ih
  | member _ _ ih =>
    rw [Expr.nodes, List.forall_mem_cons]
    exact ⟨trivial, nodes_mono ih isInfix_before⟩
  | index _ _ ih ihp =>
    rw [Expr.nodes, List.forall_mem_cons, List.forall_mem_append]
    exact ⟨trivial, nodes_mono ih isInfix_before, nodes_mono ihp (isInfix_behind isInfix_before)⟩
  | unary _ _ hop ih =>
    rw [Expr.nodes, List.forall_mem_cons]
    exact ⟨hop, nodes_mono ih (List.infix_cons List.infix_rfl)⟩
  | chain _ hs hl hr he ihl ihr =>
    exact he.wellFormed hs hl hr (nodes_mono ihl isInfix_before)
      (nodes_mono ihr (isInfix_behind List.infix_rfl))
  | power _ _ ihl ihr =>
    rw [Expr.nodes, List.forall_mem_cons, List.forall_mem_append]
    exact ⟨trivial, nodes_mono ihl isInfix_before,
      nodes_mono ihr (isInfix_behind List.infix_rfl)⟩
  | conditional _ _ _ iht ihp ihn =>
    rw [Expr.nodes, List.forall_mem_cons, List.forall_mem_append, List.forall_mem_append]
    exact ⟨trivial, nodes_mono iht isInfix_before,
      nodes_mono ihp (isInfix_behind isInfix_before),
      nodes_mono ihn (isInfix_behind (isInfix_behind List.infix_rfl))⟩

end Grammar

/-! ## The check of the number of arguments -/

/-- A function that takes any number of arguments. -/
def Definition.unchecked (d : Definition) : Definition :=
  { d with arity := .any }

/-- A well-formed call is made with a number of arguments that its function takes. -/
lemma Expr.WellFormed.call_eq_body {name : String} {d : Definition} {args : List Expr}
    (h : (Expr.call name d args).WellFormed resolve compile ts) {values : List Value}
    (hvalues : values.length = args.length) (s : Surroundings) :
    d.call s values = d.body s values := by
  unfold Definition.call
  rw [hvalues, if_pos h.2.1]

/-- Without the check of the number of arguments a well-formed expression has the same value.

**Proof sketch.** The number of the arguments is accepted, so the check is passed anyway. -/
lemma Expr.eval_replace_unchecked (h : ∀ node ∈ e.nodes, node.WellFormed resolve compile ts)
    (s : Surroundings) : (e.replace Definition.unchecked).eval s = e.eval s := by
  refine e.eval_replace_of_calledAlike fun node hnode => ?_
  cases node with
  | call name d args =>
    intro values hvalues
    rw [(h _ hnode).call_eq_body hvalues]
    rfl
  | _ => trivial

/-! ## Source texts -/

/-- A parsed expression has what the grammar reads as its root.

**Proof sketch.** By cases on what the grammar gives. -/
lemma Parser.expression_of_parse {p : Parser} {source : String} {compiled : Compiled}
    (h : p.parse source = .ok compiled) : p.expression source = .ok compiled.root := by
  unfold Parser.parse at h
  cases hp : p.expression source with
  | error _ =>
    rw [hp] at h
    cases h
  | ok root =>
    rw [hp] at h
    cases h
    rfl

/-- **Whatever is read is well formed.** The expression is that of a source text that has been read.

1. All its nodes are well formed: a call holds the function that the language has for the name
   written there, and a number of arguments that the function takes; the pattern of a match is a
   literal exactly if a text literal is written as its right operand; and no minus stands in front
   of a number.
2. When the arguments of one of its calls have values, the function takes that many, and calling it
   is evaluating its body.
3. So without any check of the number of arguments the expression has the same value everywhere.

**Proof sketch.** The expression is derived from the tokens, and a production adds only nodes that
are well formed. There are as many values as arguments, so a call cannot tell whether there is a
check, and what no call can tell does not show in the value. -/
theorem Parser.wellFormed_of_parse {language : Language} {options : Options}
    {patterns : Pattern.Engine} {source : String} {compiled : Compiled}
    (h : Parser.parse ⟨language, options, patterns⟩ source = .ok compiled) :
    (∃ tokens stop, Lexeme.ofChars source.toList = .ok (tokens, stop) ∧
      ∀ node ∈ compiled.root.nodes,
        node.WellFormed language.resolve patterns.compile (tokens.map Lexeme.token)) ∧
    (∀ name d args, .call name d args ∈ compiled.root.nodes → ∀ s state values final,
      (Expr.evalAll s args).run state = (.ok values, final) →
        d.arity.accepts values.length = true ∧ d.call s values = d.body s values) ∧
    ∀ s, { compiled with root := compiled.root.replace Definition.unchecked }.eval s =
      compiled.eval s := by
  obtain ⟨tokens, stop, ht, he⟩ := Grammar.exists_tokens_of_parse (expression_of_parse h)
  have hnodes := (Grammar.derives_of_expression he).wellFormed
  refine ⟨⟨tokens, stop, ht, hnodes⟩, fun name d args hcall s state values final hvalues => ?_,
    fun s => ?_⟩
  · have hlength := Expr.length_of_evalAll hvalues
    exact ⟨hlength ▸ (hnodes _ hcall).2.1, (hnodes _ hcall).call_eq_body hlength s⟩
  · unfold Compiled.eval
    rw [Expr.eval_replace_unchecked hnodes s]

/-- In `typeOf(-1) =~ "a" && -x !~ len(y)` the first pattern is a literal and the second one is not,
and only the first minus is in front of a number. -/
theorem Parser.wellFormed_of_parse_two_matches :
    ∃ compiled,
      Parser.parse ⟨.ofLibraries [Builtin.General.library], {}, .standard⟩
        "typeOf(-1) =~ \"a\" && -x !~ len(y)" = .ok compiled ∧
      compiled.root = .and
        (.matchesLiteral false (.call "typeOf" (.plain "typeOf" (.fixed 1) Builtin.General.typeOf)
          [.literal (.number (Double.ofInt 1).neg)]) "a" (.oneOf ⟨#[(97, 97)]⟩))
        (.matchesComputed true (.unary .negate (.var "x"))
          (.call "len" ((Definition.plain "len" (.fixed 1) Builtin.General.len).withAlias "length")
            [.var "y"])) ∧
      Pattern.ofText? "a" = some (.oneOf ⟨#[(97, 97)]⟩) ∧
      ∀ s, { compiled with root := compiled.root.replace Definition.unchecked }.eval s =
        compiled.eval s := by
  let compiled : Compiled := ⟨"typeOf(-1) =~ \"a\" && -x !~ len(y)", .and
    (.matchesLiteral false (.call "typeOf" (.plain "typeOf" (.fixed 1) Builtin.General.typeOf)
      [.literal (.number (Double.ofInt 1).neg)]) "a" (.oneOf ⟨#[(97, 97)]⟩))
    (.matchesComputed true (.unary .negate (.var "x"))
      (.call "len" ((Definition.plain "len" (.fixed 1) Builtin.General.len).withAlias "length")
        [.var "y"]))⟩
  have ht : Lexeme.ofChars "typeOf(-1) =~ \"a\" && -x !~ len(y)".toList =
      .ok ([⟨.identifier "typeOf", 0, 6⟩, ⟨.symbol .leftParen, 6, 7⟩, ⟨.symbol .minus, 7, 8⟩,
        ⟨.number (Double.ofInt 1), 8, 9⟩, ⟨.symbol .rightParen, 9, 10⟩, ⟨.symbol .isMatch, 11, 13⟩,
        ⟨.string "a", 14, 17⟩, ⟨.symbol .and, 18, 20⟩, ⟨.symbol .minus, 21, 22⟩,
        ⟨.identifier "x", 22, 23⟩, ⟨.symbol .isNotMatch, 24, 26⟩, ⟨.identifier "len", 27, 30⟩,
        ⟨.symbol .leftParen, 30, 31⟩, ⟨.identifier "y", 31, 32⟩, ⟨.symbol .rightParen, 32, 33⟩],
        33) := by
    decide +kernel
  have hparse : Parser.parse ⟨.ofLibraries [Builtin.General.library], {}, .standard⟩
      "typeOf(-1) =~ \"a\" && -x !~ len(y)" = .ok compiled := by
    rw [Parser.parse, Parser.expression, Grammar.parse_eq ht]
    rfl
  obtain ⟨⟨tokens, stop, -, hnodes⟩, -, hunchecked⟩ := wellFormed_of_parse hparse
  have hmatch : Expr.matchesLiteral false (.call "typeOf" _ _) "a" _ ∈ compiled.root.nodes :=
    List.mem_cons_of_mem _ List.mem_cons_self
  exact ⟨compiled, hparse, rfl, (hnodes _ hmatch).1, hunchecked⟩

end Formula
