import Formula.Proofs.Grammar.Derivation

set_option autoImplicit false

/-!
# What a reading takes

Each loop and each choice of the reader of expressions, seen from a result: the relations below list
the steps that lead to one, and the lemmas say that there are no others. What holds of every result
is then proved by induction on these steps, without opening the reader again.

## Main definitions

* `Formula.Grammar.ItemsRun` — the rounds of a list of items.
* `Formula.Grammar.PrimaryRun` — the ways to read an operand without operators.
* `Formula.Grammar.AccessesRun` — the rounds of a chain of accesses.
* `Formula.Grammar.OperatorsRun` — the rounds of a chain of operators.

## Main results

* `Formula.Grammar.items_ok`, `Formula.Grammar.primary_ok`, `Formula.Grammar.accesses_ok`,
  `Formula.Grammar.operators_ok` — results come from such steps.
* `Formula.Grammar.signed_ok`, `Formula.Grammar.operand_ok`, `Formula.Grammar.conditional_ok`,
  `Formula.Grammar.expression_ok` — what the other readers put together.
-/

namespace Formula

namespace Grammar

variable {α : Type}

/-! ## Symbols and lists -/

/-- A symbol is taken exactly if it comes next.

**Proof sketch.** Any other token is refused, and so is the end. -/
lemma expect_eq_ok_iff {s : Symbol} {tokens rest : List Lexeme} :
    expect s tokens = .ok rest ↔ ∃ a b, tokens = ⟨.symbol s, a, b⟩ :: rest := by
  constructor
  · intro h
    unfold expect at h
    split at h
    · next t a b tail =>
      split at h
      · next hts => cases h; exact ⟨a, b, by rw [hts]⟩
      · simp [unexpected] at h
    · unfold unexpected at h
      split at h <;> cases h
  · rintro ⟨a, b, rfl⟩
    simp [expect]

/-- Behind a symbol that is taken there is a suffix of the tokens. -/
lemma suffix_of_expect {s : Symbol} {tokens rest : List Lexeme} (h : expect s tokens = .ok rest) :
    rest <:+ tokens := by
  obtain ⟨a, b, rfl⟩ := expect_eq_ok_iff.mp h
  exact List.suffix_cons _ rest

/-- The rounds in which a list of items is read: the list is closed, or an item is the last one, or
a comma and further rounds follow it. -/
inductive ItemsRun (close : Symbol) (item : List Lexeme → Outcome α) :
    List Lexeme → List α → List Lexeme → Prop
  | none {tokens rest : List Lexeme} (h : expect close tokens = .ok rest) :
      ItemsRun close item tokens [] rest
  | last {tokens mid rest : List Lexeme} {x : α} (hx : item tokens = .ok (x, mid))
      (h : expect close mid = .ok rest) : ItemsRun close item tokens [x] rest
  | more {tokens mid tail rest : List Lexeme} {x : α} {xs : List α}
      (hx : item tokens = .ok (x, mid)) (hc : expect .comma mid = .ok tail)
      (h : ItemsRun close item tail xs rest) : ItemsRun close item tokens (x :: xs) rest

/-- A list that is read is read in rounds.

**Proof sketch.** Induction on the loop over the items. The cases that are left are those without a
refusal, and each of them is a round. -/
lemma items_ok {close : Symbol} {item : List Lexeme → Outcome α} {fuel : Nat}
    {tokens rest : List Lexeme} {xs : List α}
    (h : items close item fuel tokens = .ok (xs, rest)) : ItemsRun close item tokens xs rest := by
  fun_induction items close item fuel tokens generalizing xs rest with
  | case1 fuel tokens tail hclose => cases h; exact .none hclose
  | case2 | case3 => cases h
  | case4 fuel tokens _ _ x mid hx _ _ tail hclose => cases h; exact .last hx hclose
  | case5 tokens _ _ x mid hx tail => unfold unexpected at h; split at h <;> cases h
  | case6 => cases h
  | case7 tokens _ _ x mid hx tail hcomma fuel xs _ hxs ih =>
    cases h
    exact .more hx hcomma (ih hxs)

/-- Every item of a list is read somewhere. -/
lemma ItemsRun.exists_item {close : Symbol} {item : List Lexeme → Outcome α}
    {tokens rest : List Lexeme} {xs : List α} (h : ItemsRun close item tokens xs rest) :
    ∀ x ∈ xs, ∃ ts mid, item ts = .ok (x, mid) := by
  induction h with
  | none => simp
  | last hx => simpa using ⟨_, _, hx⟩
  | more hx _ _ ih => exact List.forall_mem_cons.mpr ⟨⟨_, _, hx⟩, ih⟩

/-- An entry that is read is a key, a colon and a value.

**Proof sketch.** The key is a text or a name. Without a key, without a colon and without a value the
entry is refused. -/
lemma entry_ok {inner : Inner} {tokens rest : List Lexeme} {key : String} {e : Expr}
    (h : entry inner tokens = .ok ((key, e), rest)) :
    ∃ word a b mid tail, tokens = ⟨word, a, b⟩ :: mid ∧ word.key? = some key ∧
      expect .colon mid = .ok tail ∧ inner .expression tail = .ok (e, rest) := by
  unfold entry at h
  split at h
  all_goals
    first
    | unfold unexpected at h; split at h <;> cases h
    | next word a b mid =>
      dsimp only at h
      split at h
      · cases h
      · next tail hcolon =>
        split at h
        · cases h
        · next he => cases h; exact ⟨_, a, b, mid, tail, rfl, rfl, hcolon, he⟩

/-! ## Operands -/

/-- The ways to read an operand without operators. -/
inductive PrimaryRun (g : Grammar) (inner : Inner) : List Lexeme → Expr → List Lexeme → Prop
  | literal {t : Lexeme} {v : Value} {rest : List Lexeme} (h : t.token.literal? = some v) :
      PrimaryRun g inner (t :: rest) (.literal v) rest
  | variable (name : String) (a b : Nat) (rest : List Lexeme) :
      PrimaryRun g inner (⟨.identifier name, a, b⟩ :: rest) (.var name) rest
  | call {name : String} {a b c d : Nat} {definition : Definition} {tokens rest : List Lexeme}
      {args : List Expr} (hname : g.resolve name = some definition)
      (hargs : ItemsRun .rightParen (inner .expression) tokens args rest)
      (harity : definition.arity.accepts args.length = true) :
      PrimaryRun g inner (⟨.identifier name, a, b⟩ :: ⟨.symbol .leftParen, c, d⟩ :: tokens)
        (.call name definition args) rest
  | array {a b : Nat} {tokens rest : List Lexeme} {es : List Expr}
      (hes : ItemsRun .rightBracket (inner .expression) tokens es rest) :
      PrimaryRun g inner (⟨.symbol .leftBracket, a, b⟩ :: tokens) (.array es) rest
  | map {a b : Nat} {tokens rest : List Lexeme} {entries : List (String × Expr)}
      (hentries : ItemsRun .rightBrace (entry inner) tokens entries rest) :
      PrimaryRun g inner (⟨.symbol .leftBrace, a, b⟩ :: tokens) (.map entries) rest
  | parentheses {a b : Nat} {tokens mid rest : List Lexeme} {e : Expr}
      (he : inner .expression tokens = .ok (e, mid)) (h : expect .rightParen mid = .ok rest) :
      PrimaryRun g inner (⟨.symbol .leftParen, a, b⟩ :: tokens) e rest

variable {g : Grammar} {inner : Inner} {tokens rest : List Lexeme} {e e' : Expr}

/-- A call that is read has a function and as many arguments as this takes.

**Proof sketch.** An unknown name, an argument that is refused and a number of arguments that is not
accepted are excluded. -/
lemma call_ok {name : String} {a b c d : Nat}
    (h : g.call inner name a tokens = .ok (e, rest)) :
    PrimaryRun g inner (⟨.identifier name, a, b⟩ :: ⟨.symbol .leftParen, c, d⟩ :: tokens) e
      rest := by
  fun_cases call g inner name a tokens with
  | case1 => simp_all [call]
  | case2 => simp_all [call]
  | case3 definition hname args tail hargs harity =>
    simp only [call, hname, hargs, harity, if_true] at h
    cases h
    exact .call hname (items_ok hargs) harity
  | case4 definition hname args tail hargs harity =>
    simp only [call, hname, hargs, harity] at h
    cases h

/-- A primary expression that is read is read in one of the ways.

**Proof sketch.** One case for each way in which it begins. The parts are read, and the symbols behind
them are taken. -/
lemma primary_ok (h : g.primary inner tokens = .ok (e, rest)) :
    PrimaryRun g inner tokens e rest := by
  unfold primary at h
  split at h
  case h_1 | h_2 | h_3 | h_4 | h_5 => cases h; exact .literal rfl
  case h_6 =>
    split at h
    · cases h
    · next he =>
      split at h
      · cases h
      · next hclose => cases h; exact .parentheses he hclose
  case h_7 =>
    split at h
    · cases h
    · next hes => cases h; exact .array (items_ok hes)
  case h_8 =>
    split at h
    · cases h
    · next hentries => cases h; exact .map (items_ok hentries)
  case h_9 => exact call_ok h
  case h_10 => cases h; exact .variable _ _ _ _
  case h_11 => unfold unexpected at h; split at h <;> cases h

/-! ## Chains -/

/-- The rounds in which accesses are read, with the number of them that is left. -/
inductive AccessesRun (inner : Inner) :
    Nat → Expr → List Lexeme → Expr → List Lexeme → Prop
  | stop (left : Nat) (e : Expr) (tokens : List Lexeme) : AccessesRun inner left e tokens e tokens
  | member {left a b c d : Nat} {name : String} {e e' : Expr} {tokens rest : List Lexeme}
      (h : AccessesRun inner left (.member e name) tokens e' rest) :
      AccessesRun inner (left + 1) e
        (⟨.symbol .dot, a, b⟩ :: ⟨.identifier name, c, d⟩ :: tokens) e' rest
  | index {left a b : Nat} {e position e' : Expr} {tokens mid tail rest : List Lexeme}
      (hp : inner .expression tokens = .ok (position, mid))
      (hclose : expect .rightBracket mid = .ok tail)
      (h : AccessesRun inner left (.index e position) tail e' rest) :
      AccessesRun inner (left + 1) e (⟨.symbol .leftBracket, a, b⟩ :: tokens) e' rest

/-- Accesses that are read are read in rounds.

**Proof sketch.** Induction on the loop over accesses. The cases that are left are those without a
refusal. -/
lemma accesses_ok {left : Nat} (h : g.accesses inner left e tokens = .ok (e', rest)) :
    AccessesRun inner left e tokens e' rest := by
  fun_induction accesses g inner left e tokens with
  | case1 => cases h
  | case2 _ _ _ _ _ _ _ _ ih => exact .member (ih h)
  | case3 => unfold unexpected at h; split at h <;> cases h
  | case4 | case5 | case6 => cases h
  | case7 _ _ _ _ _ _ hp _ hclose _ ih => exact .index hp hclose (ih h)
  | case8 => cases h; exact .stop _ _ _

/-- The level of the operator that comes next, if one does. -/
def nextLevel? (tokens : List Lexeme) : Option Nat :=
  match tokens with
  | ⟨.symbol s, _, _⟩ :: _ => s.level?
  | _ => none

/-- The rounds in which operators of at least a level are read, with the number of them that is
left. They end where no such operator comes next. -/
inductive OperatorsRun (g : Grammar) (inner : Inner) (least : Nat) :
    Nat → Expr → List Lexeme → Expr → List Lexeme → Prop
  | stop (left : Nat) (e : Expr) {tokens : List Lexeme}
      (h : ∀ k, nextLevel? tokens = some k → k < least) :
      OperatorsRun g inner least left e tokens e tokens
  | step {left a b k : Nat} {s : Symbol} {l r e e' : Expr} {tokens mid rest : List Lexeme}
      (hs : s.level? = some k) (hk : least ≤ k)
      (hr : inner (.operand (s.rightLevel k)) tokens = .ok (r, mid))
      (he : g.combine s a l r = .ok e) (h : OperatorsRun g inner least left e mid e' rest) :
      OperatorsRun g inner least (left + 1) l (⟨.symbol s, a, b⟩ :: tokens) e' rest

/-- Operators that are read are read in rounds.

**Proof sketch.** Induction on the loop over operators. It stops in front of an operator of a lower
level and in front of what is no operator, and otherwise a round is taken. -/
lemma operators_ok {least left : Nat} (h : g.operators inner least left e tokens = .ok (e', rest)) :
    OperatorsRun g inner least left e tokens e' rest := by
  fun_induction operators g inner least left e tokens with
  | case1 _ _ _ _ _ _ hs => cases h; exact .stop _ _ (by simp [nextLevel?, hs])
  | case2 _ _ _ _ _ _ _ hs hk => cases h; exact .stop _ _ (by simp [nextLevel?, hs, hk])
  | case3 | case4 | case5 => cases h
  | case6 _ _ _ _ _ _ hs hk _ _ hr _ _ he ih =>
    exact .step hs (Nat.le_of_not_lt hk) hr he (ih h)
  | case7 _ _ _ hne =>
    cases h
    refine .stop _ _ fun k hk => ?_
    unfold nextLevel? at hk
    split at hk
    · exact (hne _ _ _ _ rfl).elim
    · cases hk

/-! ## Phrases -/

/-- An operand with accesses that is read is a primary expression with accesses behind it. -/
lemma accessed_ok {levels : Nat} (h : g.accessed inner levels tokens = .ok (e, rest)) :
    ∃ e₀ mid, PrimaryRun g inner tokens e₀ mid ∧ AccessesRun inner levels e₀ mid e rest := by
  unfold accessed at h
  split at h
  · cases h
  · next hp => exact ⟨_, _, primary_ok hp, accesses_ok h⟩

/-- A signed operand that is read has an operator in front of it, or is an operand with accesses.

**Proof sketch.** Only a symbol with a unary meaning is taken, and this meaning has that symbol alone. -/
lemma signed_ok {levels : Nat} (h : g.signed inner levels tokens = .ok (e, rest)) :
    (∃ op a b tail operand, tokens = ⟨.symbol (UnaryOperator.symbol op), a, b⟩ :: tail ∧
      inner .signed tail = .ok (operand, rest) ∧ e = .signed op operand) ∨
    ∃ e₀ mid, PrimaryRun g inner tokens e₀ mid ∧ AccessesRun inner levels e₀ mid e rest := by
  unfold signed at h
  split at h
  · next s a b tail =>
    split at h
    · next op hop =>
      split at h
      · cases h
      · next he =>
        cases h
        obtain rfl := unary?_eq_some_iff.mp hop
        exact .inl ⟨op, a, b, tail, _, rfl, he, rfl⟩
    · exact .inr (accessed_ok h)
  · exact .inr (accessed_ok h)

/-- An operand that is read is a signed operand with operators behind it. -/
lemma operand_ok {levels least : Nat} (h : g.operand inner levels least tokens = .ok (e, rest)) :
    ∃ e₀ mid, g.signed inner levels tokens = .ok (e₀, mid) ∧
      OperatorsRun g inner least levels e₀ mid e rest := by
  unfold operand at h
  split at h
  · cases h
  · next hs => exact ⟨_, _, hs, operators_ok h⟩

/-- An expression that is read is a test alone or with its alternatives.

**Proof sketch.** The parts are read one behind the other, and the question mark and the colon are taken
between them. -/
lemma conditional_ok {levels : Nat} (h : g.conditional inner levels tokens = .ok (e, rest)) :
    ∃ test mid, g.operand inner levels 0 tokens = .ok (test, mid) ∧
      (e = test ∧ rest = mid ∨ ∃ tail positive colon last negative,
        expect .question mid = .ok tail ∧ inner .expression tail = .ok (positive, colon) ∧
        expect .colon colon = .ok last ∧ inner .expression last = .ok (negative, rest) ∧
        e = .conditional test positive negative) := by
  unfold conditional at h
  split at h
  · cases h
  next test mid ht =>
    refine ⟨test, mid, ht, ?_⟩
    split at h
    · cases h; exact .inl ⟨rfl, rfl⟩
    next tail hq =>
      split at h
      · cases h
      next positive colon hp =>
        split at h
        · cases h
        next last hc =>
          split at h
          · cases h
          next hn =>
            cases h
            exact .inr ⟨tail, positive, colon, last, _, hq, hp, hc, hn, rfl⟩

/-- An expression that is read from all tokens is read as a phrase.

**Proof sketch.** Without tokens there is no expression, and tokens behind it are refused. -/
lemma expression_ok (h : g.expression tokens = .ok e) :
    g.phrase g.limit .expression tokens = .ok (e, []) := by
  unfold expression at h
  split at h
  · cases h
  · split at h
    · cases h
    · next hp => cases h; exact hp
    · cases h

end Grammar

end Formula
