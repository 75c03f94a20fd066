import Formula.Expr.Grammar
import Mathlib.Tactic.Lemma

set_option autoImplicit false

/-!
# The grammar of expressions

The productions of the language, one level of operators above the other, without a word on how a
text is read. A derivation says which tokens form which expression.

| part | productions |
|---|---|
| `conditional` | `level 2`, or `level 2` `?` `conditional` `:` `conditional` |
| `level k`, `2 ≤ k ≤ 11` | `level (k + 1)`, or `level k` operator of level `k` `level (k + 1)` |
| `level 12` | `signed`, or `signed` `**` `level 12` |
| `signed` | `accessed`, or `-` `+` `!` `~` in front of `signed` |
| `accessed` | `primary`, or `accessed` `.` identifier, or `accessed` `[` `conditional` `]` |
| `primary` | literal, variable, call, array, map, or `(` `conditional` `)` |

## Main definitions

* `Formula.Grammar.operatorsOf` — the operators of a level.
* `Formula.Grammar.Joined` — the expression of an operator and its two operands.
* `Formula.Grammar.Separated` — items with commas between them.
* `Formula.Grammar.Derives` — the derivations.
* `Formula.Grammar.Agree` — grammars that differ in no more than their bounds.

## Main results

* `Formula.Grammar.mem_operatorsOf` — the levels that the reader looks up are those of the grammar.
* `Formula.Grammar.combine_eq_ok_iff` — the reader joins operands as the grammar does.
* `Formula.Grammar.Derives.exists_cons` — what an expression can start with.
-/

namespace Formula

/-- The symbol of an operator in front of an operand. -/
def UnaryOperator.symbol (op : UnaryOperator) : Symbol :=
  match op with
  | negate => .minus
  | plus => .plus
  | not => .not
  | bitNot => .bitNot

/-- The value of a token that is a literal. -/
def Token.literal? (t : Token) : Option Value :=
  match t with
  | number x => some (.number x)
  | string s => some (.string s)
  | symbol .wordTrue => some (.bool true)
  | symbol .wordFalse => some (.bool false)
  | symbol .wordNull => some .null
  | _ => none

/-- The key that a token is in front of the colon of an entry. -/
def Token.key? (t : Token) : Option String :=
  match t with
  | identifier key => some key
  | string key => some key
  | _ => none

namespace Grammar

/-! ## Productions -/

/-- The operators between operands that are on a level. -/
def operatorsOf (k : Nat) : List Symbol :=
  match k with
  | 2 => [.coalesce]
  | 3 => [.or]
  | 4 => [.and]
  | 5 => [.equal, .notEqual, .less, .lessEqual, .greater, .greaterEqual, .isMatch, .isNotMatch,
      .wordIn]
  | 6 => [.bitOr]
  | 7 => [.bitXor]
  | 8 => [.bitAnd]
  | 9 => [.shiftLeft, .shiftRight]
  | 10 => [.plus, .minus]
  | 11 => [.star, .slash, .percent]
  | 12 => [.starStar]
  | _ => []

/-- `Joined compile s l r e`: the operator `s` between `l` and `r` stands for `e`. A text literal behind
a match is a pattern, and `compile` has to know it; any other expression there is computed. -/
inductive Joined (compile : String → Option Pattern) : Symbol → Expr → Expr → Expr → Prop
  | coalesce (l r : Expr) : Joined compile .coalesce l r (.coalesce l r)
  | or (l r : Expr) : Joined compile .or l r (.or l r)
  | and (l r : Expr) : Joined compile .and l r (.and l r)
  | matchesLiteral (negated : Bool) (l : Expr) (text : String) (pattern : Pattern)
      (h : compile text = some pattern) :
      Joined compile (matchSymbol negated) l (.literal (.string text))
        (.matchesLiteral negated l text pattern)
  | matchesComputed (negated : Bool) (l r : Expr) (h : ∀ text, r ≠ .literal (.string text)) :
      Joined compile (matchSymbol negated) l r (.matchesComputed negated l r)
  | binary (op : BinaryOperator) (l r : Expr) : Joined compile op.symbol l r (.binary op l r)

/-- `Separated parts ts`: the tokens `ts` are the parts with commas between them. A comma may stand
behind the last part. -/
inductive Separated : List (List Token) → List Token → Prop
  | none : Separated [] []
  | last (p : List Token) : Separated [p] p
  | more (p : List Token) {parts : List (List Token)} {ts : List Token} (h : Separated parts ts) :
      Separated (p :: parts) (p ++ .symbol .comma :: ts)

/-- An entry of a map as it is written: a word, a colon, and the tokens of the value. -/
structure Entry where
  word : Token
  key : String
  tokens : List Token
  value : Expr

/-- The tokens of an entry. -/
def Entry.written (x : Entry) : List Token :=
  x.word :: .symbol .colon :: x.tokens

/-- The parts of the grammar. -/
inductive Nonterminal where
  /-- A whole expression. -/
  | conditional
  /-- An operand with operators of at least a level. The levels end at `12`. -/
  | level (k : Nat)
  /-- An operand with the operators in front of it. -/
  | signed
  /-- An operand with the accesses behind it. -/
  | accessed
  /-- An operand without operators. -/
  | primary

/-- `Derives resolve compile n ts e`: the tokens `ts` are an `n` of the grammar and stand for `e`, where
`resolve` says which functions there are and `compile` which patterns. -/
inductive Derives (resolve : String → Option Definition) (compile : String → Option Pattern) :
    Nonterminal → List Token → Expr → Prop
  | literal {t : Token} {v : Value} (h : t.literal? = some v) :
      Derives resolve compile .primary [t] (.literal v)
  | variable (name : String) : Derives resolve compile .primary [.identifier name] (.var name)
  | call {name : String} {definition : Definition} {parts : List (List Token × Expr)}
      {ts : List Token} (hname : resolve name = some definition)
      (harity : definition.arity.accepts parts.length = true)
      (hparts : ∀ p ∈ parts, Derives resolve compile .conditional p.1 p.2)
      (hts : Separated (parts.map Prod.fst) ts) :
      Derives resolve compile .primary
        (.identifier name :: .symbol .leftParen :: (ts ++ [.symbol .rightParen]))
        (.call name definition (parts.map Prod.snd))
  | array {parts : List (List Token × Expr)} {ts : List Token}
      (hparts : ∀ p ∈ parts, Derives resolve compile .conditional p.1 p.2)
      (hts : Separated (parts.map Prod.fst) ts) :
      Derives resolve compile .primary (.symbol .leftBracket :: (ts ++ [.symbol .rightBracket]))
        (.array (parts.map Prod.snd))
  | map {entries : List Entry} {ts : List Token}
      (hkeys : ∀ x ∈ entries, x.word.key? = some x.key)
      (hvalues : ∀ x ∈ entries, Derives resolve compile .conditional x.tokens x.value)
      (hts : Separated (entries.map Entry.written) ts) :
      Derives resolve compile .primary (.symbol .leftBrace :: (ts ++ [.symbol .rightBrace]))
        (.map (entries.map fun x => (x.key, x.value)))
  | parentheses {ts : List Token} {e : Expr} (h : Derives resolve compile .conditional ts e) :
      Derives resolve compile .primary (.symbol .leftParen :: (ts ++ [.symbol .rightParen])) e
  | primary {ts : List Token} {e : Expr} (h : Derives resolve compile .primary ts e) :
      Derives resolve compile .accessed ts e
  | member {ts : List Token} {e : Expr} (h : Derives resolve compile .accessed ts e) (name : String) :
      Derives resolve compile .accessed (ts ++ [.symbol .dot, .identifier name]) (.member e name)
  | index {ts us : List Token} {e position : Expr} (h : Derives resolve compile .accessed ts e)
      (hp : Derives resolve compile .conditional us position) :
      Derives resolve compile .accessed (ts ++ .symbol .leftBracket :: (us ++ [.symbol .rightBracket]))
        (.index e position)
  | accessed {ts : List Token} {e : Expr} (h : Derives resolve compile .accessed ts e) :
      Derives resolve compile .signed ts e
  | negative {ts : List Token} {x : Double}
      (h : Derives resolve compile .signed ts (.literal (.number x))) :
      Derives resolve compile .signed (.symbol .minus :: ts) (.literal (.number x.neg))
  | unary {ts : List Token} {e : Expr} (op : UnaryOperator) (h : Derives resolve compile .signed ts e)
      (hop : op = .negate → ∀ x, e ≠ .literal (.number x)) :
      Derives resolve compile .signed (.symbol op.symbol :: ts) (.unary op e)
  | signed {ts : List Token} {e : Expr} (h : Derives resolve compile .signed ts e) :
      Derives resolve compile (.level 13) ts e
  | tighter {k : Nat} {ts : List Token} {e : Expr} (h : Derives resolve compile (.level (k + 1)) ts e) :
      Derives resolve compile (.level k) ts e
  | chain {k : Nat} {s : Symbol} {ts us : List Token} {l r e : Expr} (hk : k ≤ 11)
      (hs : s ∈ operatorsOf k) (hl : Derives resolve compile (.level k) ts l)
      (hr : Derives resolve compile (.level (k + 1)) us r) (he : Joined compile s l r e) :
      Derives resolve compile (.level k) (ts ++ .symbol s :: us) e
  | power {ts us : List Token} {l r : Expr} (hl : Derives resolve compile .signed ts l)
      (hr : Derives resolve compile (.level 12) us r) :
      Derives resolve compile (.level 12) (ts ++ .symbol .starStar :: us) (.binary .pow l r)
  | operand {ts : List Token} {e : Expr} (h : Derives resolve compile (.level 2) ts e) :
      Derives resolve compile .conditional ts e
  | conditional {ts us vs : List Token} {test positive negative : Expr}
      (ht : Derives resolve compile (.level 2) ts test)
      (hp : Derives resolve compile .conditional us positive)
      (hn : Derives resolve compile .conditional vs negative) :
      Derives resolve compile .conditional
        (ts ++ .symbol .question :: (us ++ .symbol .colon :: vs))
        (.conditional test positive negative)

/-! ## Levels, signs and joined operands -/

attribute [local simp] Symbol.level? Symbol.binary?

/-- The levels that the reader looks up are those of the grammar.

**Proof sketch.** Both tables are gone through, symbol by symbol. -/
lemma mem_operatorsOf {s : Symbol} {k : Nat} : s ∈ operatorsOf k ↔ s.level? = some k := by
  constructor
  · intro h
    unfold operatorsOf at h
    split at h <;> simp only [List.mem_cons, List.not_mem_nil, or_false] at h
    all_goals rcases h with rfl | rfl | rfl | rfl | rfl | rfl | rfl | rfl | rfl <;> rfl
  · intro h
    cases s <;> simp only [Symbol.level?, Option.some.injEq, reduceCtorEq] at h
    all_goals subst h; simp [operatorsOf]

/-- Operators stand on the levels from `2` to `12`. -/
lemma level_bounds {s : Symbol} {k : Nat} (h : s.level? = some k) : 2 ≤ k ∧ k ≤ 12 := by
  cases s <;> simp only [Symbol.level?, Option.some.injEq, reduceCtorEq] at h
  all_goals omega

/-- Level `12` has one operator. -/
lemma level_eq_twelve {s : Symbol} (h : s.level? = some 12) : s = .starStar := by
  cases s <;> simp_all

/-- A symbol is read as a prefix exactly if it is the symbol of this prefix. -/
lemma unary?_eq_some_iff {s : Symbol} {op : UnaryOperator} :
    s.unary? = some op ↔ s = op.symbol := by
  cases s <;> cases op <;> simp [Symbol.unary?, UnaryOperator.symbol]

/-- The symbol of a prefix is read as it. -/
lemma unary?_symbol (op : UnaryOperator) : op.symbol.unary? = some op :=
  unary?_eq_some_iff.mpr rfl

/-- The only operator that is taken into its operand is a minus in front of a number. -/
lemma signed_eq_unary {op : UnaryOperator} {e : Expr}
    (h : op = .negate → ∀ x, e ≠ .literal (.number x)) : Expr.signed op e = .unary op e := by
  unfold Expr.signed
  split
  · exact absurd rfl (h rfl _)
  · rfl

/-- A symbol that is read as an operator between operands is the symbol of this operator. -/
lemma symbol_of_binary? {s : Symbol} {op : BinaryOperator} (h : s.binary? = some op) :
    s = op.symbol := by
  cases s <;> simp only [Symbol.binary?, Option.some.injEq, reduceCtorEq] at h
  all_goals subst h; rfl

variable {g : Grammar} {pos : Nat}

/-- A match reads a text literal behind it as a pattern. -/
lemma combine_match (g : Grammar) (pos : Nat) (negated : Bool) (l r : Expr) :
    g.combine (matchSymbol negated) pos l r =
      match r with
      | .literal (.string text) => combine.literalMatch g l negated text
      | r => .ok (.matchesComputed negated l r) := by
  cases negated <;> unfold combine <;> simp only [matchSymbol] <;> split <;> simp_all

/-- The patterns are all that the joining of operands depends on. -/
lemma combine_congr {g' : Grammar} (h : g'.compile = g.compile) (s : Symbol) (pos : Nat)
    (l r : Expr) : g'.combine s pos l r = g.combine s pos l r := by
  unfold combine combine.literalMatch
  rw [h]

/-- Two grammars with the same functions and patterns. Their bounds and the ends of their sources may
differ. -/
structure Agree (g g' : Grammar) : Prop where
  resolve_eq : g'.resolve = g.resolve
  compile_eq : g'.compile = g.compile

/-- A match against a literal that is a pattern is joined as in the grammar. -/
lemma joined_of_literalMatch {negated : Bool} {l e : Expr} {text : String}
    (h : combine.literalMatch g l negated text = .ok e) :
    Joined g.compile (matchSymbol negated) l (.literal (.string text)) e := by
  unfold combine.literalMatch at h
  split at h
  · next pattern hp => cases h; exact .matchesLiteral negated l text pattern hp
  · cases h

/-- The reader joins operands as the grammar does.

**Proof sketch.** From left to right one case for each branch of the reader, where symbols without a
level are excluded. From right to left one case for each way to join operands. -/
lemma combine_eq_ok_iff {s : Symbol} {l r e : Expr} {k : Nat} (hs : s.level? = some k) :
    g.combine s pos l r = .ok e ↔ Joined g.compile s l r e := by
  constructor
  · intro h
    unfold combine at h
    split at h
    case h_1 => cases h; exact .coalesce l r
    case h_2 => cases h; exact .or l r
    case h_3 => cases h; exact .and l r
    case h_4 text => exact joined_of_literalMatch h
    case h_5 text => exact joined_of_literalMatch h
    case h_6 hr => cases h; exact .matchesComputed false l r fun text => hr text
    case h_7 hr => cases h; exact .matchesComputed true l r fun text => hr text
    -- Every other symbol is an operator between two operands, or it is refused.
    case h_8 =>
      split at h
      · next op hop => cases h; rw [symbol_of_binary? hop]; exact .binary op l r
      · cases h
  · intro h
    cases h with
    | coalesce | or | and => rfl
    | matchesLiteral negated _ text pattern hp =>
      rw [combine_match]
      simp only [combine.literalMatch, hp]
    | matchesComputed negated _ _ hr =>
      rw [combine_match]
      split
      · exact absurd rfl (hr _)
      · rfl
    | binary op =>
      cases op <;> rfl

/-- Every symbol with a level joins operands, so its position is in no result. -/
lemma combine_pos {s : Symbol} {k : Nat} (hs : s.level? = some k) (pos pos' : Nat) (l r : Expr) :
    g.combine s pos l r = g.combine s pos' l r := by
  unfold combine
  split
  case h_8 =>
    split
    · rfl
    · next hop => cases s <;> simp_all
  all_goals rfl

/-! ## First tokens -/

/-- The tokens that an operand without operators can start with. -/
def opens (t : Token) : Bool :=
  match t with
  | .number _ | .string _ | .identifier _ => true
  | .symbol s => s ∈ [Symbol.wordTrue, .wordFalse, .wordNull, .leftParen, .leftBracket, .leftBrace]

/-- The parts that an operator in front of an operand can start. -/
def Nonterminal.Signable (n : Nonterminal) : Prop :=
  match n with
  | .primary | .accessed => False
  | _ => True

/-- A literal opens an operand. -/
lemma opens_of_literal? {t : Token} {v : Value} (h : t.literal? = some v) : opens t = true := by
  unfold Token.literal? at h
  split at h <;> first | rfl | cases h

variable {resolve : String → Option Definition} {compile : String → Option Pattern}
  {n : Nonterminal} {ts : List Token} {e : Expr}

/-- Every part starts with a token that opens an operand, or with an operator in front of one.

**Proof sketch.** Induction on the derivation. A part that begins with a smaller part starts as this one
does. -/
lemma Derives.exists_cons (h : Derives resolve compile n ts e) :
    ∃ t us, ts = t :: us ∧
      (opens t = true ∨ n.Signable ∧ ∃ op : UnaryOperator, t = .symbol op.symbol) := by
  induction h with
  | literal h => exact ⟨_, _, rfl, .inl (opens_of_literal? h)⟩
  | «variable» | call | array | map | parentheses => exact ⟨_, _, rfl, .inl rfl⟩
  | primary _ ih =>
    obtain ⟨t, us, rfl, ho | ⟨hs, _⟩⟩ := ih
    · exact ⟨t, us, rfl, .inl ho⟩
    · exact hs.elim
  | member _ _ ih | index _ _ ih =>
    obtain ⟨t, us, rfl, ho⟩ := ih
    exact ⟨t, _, rfl, ho⟩
  | negative => exact ⟨_, _, rfl, .inr ⟨trivial, .negate, rfl⟩⟩
  | unary op => exact ⟨_, _, rfl, .inr ⟨trivial, op, rfl⟩⟩
  | accessed _ ih | signed _ ih | tighter _ ih | operand _ ih =>
    obtain ⟨t, us, rfl, ho⟩ := ih
    exact ⟨t, us, rfl, ho.imp_right fun ⟨_, h⟩ => ⟨trivial, h⟩⟩
  | chain _ _ _ _ _ ih | power _ _ ih | conditional _ _ _ ih =>
    obtain ⟨t, us, rfl, ho⟩ := ih
    exact ⟨t, _, rfl, ho.imp_right fun ⟨_, h⟩ => ⟨trivial, h⟩⟩

/-- Every part has a token. -/
lemma Derives.ne_nil (h : Derives resolve compile n ts e) : ts ≠ [] := by
  obtain ⟨t, us, rfl, _⟩ := h.exists_cons
  exact List.cons_ne_nil t us

/-- Looser levels take in what tighter ones derive. -/
lemma Derives.level_mono {j k : Nat} (hjk : j ≤ k) (h : Derives resolve compile (.level k) ts e) :
    Derives resolve compile (.level j) ts e := by
  induction hjk with
  | refl => exact h
  | step _ ih => exact ih (.tighter h)

/-- No operator stands on the levels `0` and `1`.

**Proof sketch.** By cases on the level, of which only the last one has operators. -/
lemma Derives.level_two {k : Nat} (hk : k ≤ 2) (h : Derives resolve compile (.level k) ts e) :
    Derives resolve compile (.level 2) ts e := by
  obtain rfl | rfl | rfl : k = 0 ∨ k = 1 ∨ k = 2 := by omega
  · cases h with
    | tighter h => exact h.level_two (by omega)
    | chain _ hs => simp [operatorsOf] at hs
  · cases h with
    | tighter h => exact h
    | chain _ hs => simp [operatorsOf] at hs
  · exact h

/-- An operator in front of an operand, with a minus taken into a number. -/
lemma Derives.signed_cons (op : UnaryOperator) (h : Derives resolve compile .signed ts e) :
    Derives resolve compile .signed (.symbol op.symbol :: ts) (.signed op e) := by
  by_cases hop : op = .negate → ∀ x, e ≠ .literal (.number x)
  · rw [signed_eq_unary hop]
    exact .unary op h hop
  · obtain ⟨rfl, x, rfl⟩ : op = .negate ∧ ∃ x, e = .literal (.number x) := by
      simpa using hop
    exact .negative h

end Grammar

end Formula
