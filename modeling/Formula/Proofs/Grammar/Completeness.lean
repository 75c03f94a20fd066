import Formula.Proofs.Grammar.Limit

set_option autoImplicit false

/-!
# Derivations are read

Whatever the grammar derives is read as what it derives, if there are more levels than tokens. With
soundness, the reader accepts exactly the language of the grammar, and the grammar is unambiguous.

What follows a part of the grammar decides whether the reader ends there, so the statement for each
part says what may come next. For the levels of operators it says more: reading an operand with
operators of at least `least` leads to the loop over operators behind any operand of a tighter
level. That is how one loop covers the productions of all levels.

## Main definitions

* `Formula.Grammar.Closed`, `Formula.Grammar.NoAccess` — what comes behind a part.
* `Formula.Grammar.Complete` — a part is read as what it is derived as.
* `Formula.Grammar.LeftOperand` — tokens are read as the left operand of an operator.

## Main results

* `Formula.Grammar.Derives.complete` — every derivation is read.
* `Formula.Grammar.expression_of_operands` — two operands are read as what they are joined to, or
  refused as their joining is.
* `Formula.Grammar.parse_eq_ok_iff` — a source text is read as an expression exactly if its tokens
  derive it, and they derive at most one.
-/

namespace Formula

namespace Grammar

/-! ## What comes next -/

/-- The symbols that end an expression. -/
def closers : List Symbol :=
  [.rightParen, .rightBracket, .rightBrace, .comma, .colon]

/-- The tokens are at their end, or at a symbol that ends an expression. -/
inductive Closed : List Lexeme → Prop
  | nil : Closed []
  | cons {s : Symbol} (h : s ∈ closers) (a b : Nat) (rest : List Lexeme) :
      Closed (⟨.symbol s, a, b⟩ :: rest)

/-- No access comes next, and no arguments. -/
def NoAccess (rest : List Lexeme) : Prop :=
  match rest with
  | ⟨.symbol .dot, _, _⟩ :: _ => False
  | ⟨.symbol .leftBracket, _, _⟩ :: _ => False
  | ⟨.symbol .leftParen, _, _⟩ :: _ => False
  | _ => True

/-- The level up to which an operator behind an operand of a level goes on with it. -/
def behind (k : Nat) : Nat :=
  if k = 12 then 12 else k + 1

variable {g : Grammar} {inner : Inner} {rest : List Lexeme} {e : Expr}

/-- What ends an expression is no operator. -/
lemma Closed.nextLevel?_eq (h : Closed rest) : nextLevel? rest = none := by
  cases h with
  | nil => rfl
  | cons hs =>
    simp only [closers, List.mem_cons, List.not_mem_nil, or_false] at hs
    rcases hs with rfl | rfl | rfl | rfl | rfl <;> rfl

/-- What ends an expression is no access. -/
lemma Closed.noAccess (h : Closed rest) : NoAccess rest := by
  cases h with
  | nil => trivial
  | cons hs =>
    simp only [closers, List.mem_cons, List.not_mem_nil, or_false] at hs
    rcases hs with rfl | rfl | rfl | rfl | rfl <;> trivial

/-- An operator between operands is no access. -/
lemma noAccess_of_level {s : Symbol} {k : Nat} (hs : s.level? = some k) (a b : Nat) :
    NoAccess (⟨.symbol s, a, b⟩ :: rest) := by
  cases s <;> simp only [Symbol.level?, reduceCtorEq] at hs <;> trivial

/-- Where no access comes next, the loop over accesses gives back its operand and its tokens. -/
lemma accesses_of_noAccess (h : NoAccess rest) (left : Nat) (e : Expr) :
    g.accesses inner left e rest = .ok (e, rest) := by
  rw [accesses]
  · rintro pos stop tail rfl
    exact h
  · rintro pos stop tail rfl
    exact h

/-- Where no operator comes next that is tight enough, the loop over operators gives back its operand
and its tokens.

**Proof sketch.** The loop goes on only for an operator of its level or above it, and the hypothesis
excludes these. -/
lemma operators_of_nextLevel {least : Nat} (h : ∀ k, nextLevel? rest = some k → k < least)
    (left : Nat) (e : Expr) : g.operators inner least left e rest = .ok (e, rest) := by
  unfold operators
  split
  · next s a b tail =>
    cases hs : s.level? with
    | none => rfl
    | some k => simp only [if_pos (h k hs)]
  · rfl

/-- A symbol that is expected and comes next is taken. -/
lemma expect_self (s : Symbol) (a b : Nat) :
    expect s (⟨.symbol s, a, b⟩ :: rest) = .ok rest :=
  expect_eq_ok_iff.mpr ⟨a, b, rfl⟩

/-- A symbol is missed where another token comes next.

**Proof sketch.** What is taken would be the symbol itself. -/
lemma expect_of_ne {s : Symbol} {t : Lexeme} (h : t.token ≠ .symbol s) :
    ∃ err, expect s (t :: rest) = .error err := by
  cases he : expect s (t :: rest) with
  | error err => exact ⟨err, rfl⟩
  | ok tail =>
    obtain ⟨a, b, ht⟩ := expect_eq_ok_iff.mp he
    cases ht
    exact (h rfl).elim

/-- No alternatives come where an expression ends.

**Proof sketch.** The question mark is not among the symbols that end an expression. -/
lemma Closed.expect_question (h : Closed rest) : ∃ err, expect .question rest = .error err := by
  cases h with
  | nil => exact ⟨_, rfl⟩
  | cons hs =>
    refine expect_of_ne fun ht => ?_
    cases ht
    exact absurd hs (by decide)

/-! ## Items -/

/-- The last round of a list. -/
lemma items_last {α : Type} {close : Symbol} {item : List Lexeme → Outcome α}
    {tokens mid : List Lexeme} {x : α} (hopen : ∃ err, expect close tokens = .error err)
    (hx : item tokens = .ok (x, mid)) (hcomma : ∃ err, expect .comma mid = .error err)
    (hclose : expect close mid = .ok rest) (fuel : Nat) :
    items close item fuel tokens = .ok ([x], rest) := by
  obtain ⟨_, hopen⟩ := hopen
  obtain ⟨_, hcomma⟩ := hcomma
  unfold items
  simp only [hopen, hx, hcomma, hclose]

/-- A round of a list with a comma behind the item. -/
lemma items_more {α : Type} {close : Symbol} {item : List Lexeme → Outcome α}
    {tokens mid tail : List Lexeme} {x : α} {xs : List α} {fuel : Nat}
    (hopen : ∃ err, expect close tokens = .error err) (hx : item tokens = .ok (x, mid))
    (hcomma : expect .comma mid = .ok tail) (hxs : items close item fuel tail = .ok (xs, rest)) :
    items close item (fuel + 1) tokens = .ok (x :: xs, rest) := by
  obtain ⟨_, hopen⟩ := hopen
  rw [items]
  simp only [hopen, hx, hcomma, hxs]

/-- Separated items are read as a list, if each of them is read where it stands.

**Proof sketch.** Induction on the separated items. Without items the closing symbol comes first. The
last item is read where the closing symbol comes behind it (`items_last`), and any other one where a
comma does (`items_more`). Both end an expression, so each item is read up to there. No item starts with
the closing symbol, so the loop does not stop in front of one. -/
lemma items_of_separated {α β : Type} {written : β → List Token} {value : β → α}
    {close : Symbol} {item : List Lexeme → Outcome α} {levels : Nat} (hclose : close ∈ closers)
    (hcomma : close ≠ .comma) {parts : List β} {ts : List Token}
    (hts : Separated (parts.map written) ts)
    (hfirst : ∀ x ∈ parts, ∃ t us, written x = t :: us ∧ t ≠ .symbol close)
    (hitem : ∀ x ∈ parts, ∀ used rest, used.map Lexeme.token = written x →
      (used ++ rest).length < levels → Closed rest → item (used ++ rest) = .ok (value x, rest))
    {used : List Lexeme} {a b fuel : Nat} (hused : used.map Lexeme.token = ts)
    (hlevels : (used ++ ⟨.symbol close, a, b⟩ :: rest).length < levels)
    (hfuel : used.length ≤ fuel) :
    items close item fuel (used ++ ⟨.symbol close, a, b⟩ :: rest) =
      .ok (parts.map value, rest) := by
  generalize hps : parts.map written = ps at hts
  induction hts generalizing parts used fuel with
  | none =>
    obtain rfl := List.map_eq_nil_iff.mp hps
    obtain rfl := List.map_eq_nil_iff.mp hused
    unfold items
    rw [List.nil_append, expect_self]
    rfl
  | last p =>
    obtain ⟨x, parts, rfl, rfl, hnil⟩ := List.map_eq_cons_iff.mp hps
    obtain rfl := List.map_eq_nil_iff.mp hnil
    have hx : x ∈ [x] := List.mem_singleton.mpr rfl
    obtain ⟨t, us, hwritten, ht⟩ := hfirst x hx
    obtain ⟨first, more, rfl, rfl, -⟩ := List.map_eq_cons_iff.mp (hused.trans hwritten)
    exact items_last (expect_of_ne ht)
      (hitem x hx _ _ hused hlevels (.cons hclose a b rest))
      (expect_of_ne (by simpa using hcomma)) (expect_self close a b) fuel
  | more p hts ih =>
    obtain ⟨x, parts, rfl, rfl, rfl⟩ := List.map_eq_cons_iff.mp hps
    have hx : x ∈ x :: parts := List.mem_cons_self
    obtain ⟨item₁, tail, rfl, hitem₁, htail⟩ := List.map_eq_append_iff.mp hused
    obtain ⟨comma, items₂, rfl, hc, hitems₂⟩ := List.map_eq_cons_iff.mp htail
    obtain ⟨_, c, d⟩ := comma
    cases hc
    obtain ⟨t, us, hwritten, ht⟩ := hfirst x hx
    obtain ⟨first, more, rfl, rfl, -⟩ := List.map_eq_cons_iff.mp (hitem₁.trans hwritten)
    simp only [List.length_append, List.length_cons, List.append_assoc, List.cons_append]
      at hlevels hfuel ⊢
    obtain ⟨fuel, rfl⟩ : ∃ n, fuel = n + 1 := ⟨fuel - 1, by omega⟩
    -- The comma ends the item, and the rest of the list is read with one round less.
    refine items_more (expect_of_ne ht) (hitem x hx (first :: more) _ hitem₁ ?_
      (.cons (by simp [closers]) c d _)) (expect_self .comma c d)
      (ih (fun y hy => hfirst y (.tail x hy)) (fun y hy => hitem y (.tail x hy)) hitems₂ ?_ ?_ rfl)
    · simp only [List.length_append, List.length_cons]
      omega
    · simp only [List.length_append, List.length_cons]
      omega
    · omega

/-! ## Parts of the grammar -/

/-- What it means for a part of the grammar to be read as what it is derived as, with more levels
than tokens, and what may come next for that. -/
def Complete (g : Grammar) (n : Nonterminal) (ts : List Token) (e : Expr) : Prop :=
  ∀ (levels : Nat) (used rest : List Lexeme), used.map Lexeme.token = ts →
    (used ++ rest).length ≤ levels →
    match n with
    | .primary => (∀ a b tail, rest ≠ ⟨.symbol .leftParen, a, b⟩ :: tail) →
        g.primary (g.phrase levels) (used ++ rest) = .ok (e, rest)
    | .accessed => (∀ a b tail, rest ≠ ⟨.symbol .leftParen, a, b⟩ :: tail) →
        ∃ left, rest.length ≤ left ∧ g.accessed (g.phrase levels) levels (used ++ rest) =
          g.accesses (g.phrase levels) left e rest
    | .signed => NoAccess rest → g.signed (g.phrase levels) levels (used ++ rest) = .ok (e, rest)
    | .level k => NoAccess rest → (∀ j, nextLevel? rest = some j → j < behind k) →
        ∀ least ≤ k, ∃ left, rest.length ≤ left ∧
          g.operand (g.phrase levels) levels least (used ++ rest) =
            g.operators (g.phrase levels) least left e rest
    | .conditional => Closed rest →
        g.conditional (g.phrase levels) levels (used ++ rest) = .ok (e, rest)

variable {ts : List Token} {used : List Lexeme} {levels : Nat}

/-- A whole expression one level deeper. -/
lemma Complete.phrase_expression (h : Complete g .conditional ts e)
    (hused : used.map Lexeme.token = ts) (hlevels : (used ++ rest).length < levels)
    (hrest : Closed rest) : g.phrase levels .expression (used ++ rest) = .ok (e, rest) := by
  obtain ⟨levels, rfl⟩ : ∃ n, levels = n + 1 := ⟨levels - 1, by omega⟩
  exact h levels used rest hused (by omega) hrest

/-- A signed operand one level deeper. -/
lemma Complete.phrase_signed (h : Complete g .signed ts e)
    (hused : used.map Lexeme.token = ts) (hlevels : (used ++ rest).length < levels)
    (hrest : NoAccess rest) : g.phrase levels .signed (used ++ rest) = .ok (e, rest) := by
  obtain ⟨levels, rfl⟩ : ∃ n, levels = n + 1 := ⟨levels - 1, by omega⟩
  exact h levels used rest hused (by omega) hrest

/-- The right operand of an operator, one level deeper. It ends where a looser operator comes.

**Proof sketch.** What comes next is looser than the operand, so the loop over operators stops there
(`operators_of_nextLevel`). -/
lemma Complete.phrase_operand {k : Nat} (h : Complete g (.level k) ts e)
    (hused : used.map Lexeme.token = ts) (hlevels : (used ++ rest).length < levels)
    (hrest : NoAccess rest) (hnext : ∀ j, nextLevel? rest = some j → j < k) :
    g.phrase levels (.operand k) (used ++ rest) = .ok (e, rest) := by
  obtain ⟨levels, rfl⟩ : ∃ n, levels = n + 1 := ⟨levels - 1, by omega⟩
  have hbehind : ∀ j, nextLevel? rest = some j → j < behind k := by
    intro j hj
    have := hnext j hj
    unfold behind
    split <;> omega
  obtain ⟨left, -, hleft⟩ :=
    h levels used rest hused (by omega) hrest hbehind k (Nat.le_refl k)
  exact hleft.trans (operators_of_nextLevel hnext left e)

/-! ## Lexemes of given tokens -/

/-- Lexemes that stand for a token and others begin with a lexeme for that token. -/
lemma exists_lexeme_cons {t : Token} (h : used.map Lexeme.token = t :: ts) :
    ∃ a b tail, used = ⟨t, a, b⟩ :: tail ∧ tail.map Lexeme.token = ts := by
  obtain ⟨⟨_, a, b⟩, tail, rfl, rfl, ht⟩ := List.map_eq_cons_iff.mp h
  exact ⟨a, b, tail, rfl, ht⟩

/-- Lexemes that stand for tokens and one more end with a lexeme for it. -/
lemma exists_lexeme_concat {t : Token} (h : used.map Lexeme.token = ts ++ [t]) :
    ∃ a b first, used = first ++ [⟨t, a, b⟩] ∧ first.map Lexeme.token = ts := by
  obtain ⟨first, last, rfl, hf, hl⟩ := List.map_eq_append_iff.mp h
  obtain ⟨a, b, tail, rfl, ht⟩ := exists_lexeme_cons hl
  obtain rfl := List.map_eq_nil_iff.mp ht
  exact ⟨a, b, first, rfl, hf⟩

/-- Lexemes that stand for a row of tokens are divided as the row is. -/
lemma exists_lexeme_between {t : Token} {us : List Token}
    (h : used.map Lexeme.token = ts ++ t :: us) :
    ∃ a b first second, used = first ++ ⟨t, a, b⟩ :: second ∧ first.map Lexeme.token = ts ∧
      second.map Lexeme.token = us := by
  obtain ⟨first, tail, rfl, hf, ht⟩ := List.map_eq_append_iff.mp h
  obtain ⟨a, b, second, rfl, hs⟩ := exists_lexeme_cons ht
  exact ⟨a, b, first, second, rfl, hf, hs⟩

/-! ## Operands without operators -/

/-- No expression starts with a symbol that ends one.

**Proof sketch.** An expression starts with what opens a primary expression or with a unary operator.
None of these is a symbol that ends one. -/
lemma Derives.exists_first {close : Symbol} (hclose : close ∈ closers)
    (h : Derives g.resolve g.compile .conditional ts e) : ∃ t us, ts = t :: us ∧ t ≠ .symbol close := by
  obtain ⟨t, us, rfl, ho⟩ := h.exists_cons
  refine ⟨t, us, rfl, ?_⟩
  rintro rfl
  simp only [closers, List.mem_cons, List.not_mem_nil, or_false] at hclose
  rcases ho with ho | ⟨-, op, ho⟩
  · rcases hclose with rfl | rfl | rfl | rfl | rfl <;> cases ho
  · rcases hclose with rfl | rfl | rfl | rfl | rfl <;> cases op <;> cases ho

/-- Arguments and items of arrays. -/
lemma list_of_separated {close : Symbol} {parts : List (List Token × Expr)} (a b : Nat)
    (hclose : close ∈ closers ∧ close ≠ .comma) (hts : Separated (parts.map Prod.fst) ts)
    (hparts : ∀ p ∈ parts, Derives g.resolve g.compile .conditional p.1 p.2)
    (hcomplete : ∀ p ∈ parts, Complete g .conditional p.1 p.2)
    (hused : used.map Lexeme.token = ts)
    (hlevels : (used ++ ⟨.symbol close, a, b⟩ :: rest).length < levels) :
    items close (g.phrase levels .expression) (used ++ ⟨.symbol close, a, b⟩ :: rest).length
      (used ++ ⟨.symbol close, a, b⟩ :: rest) = .ok (parts.map Prod.snd, rest) := by
  refine items_of_separated hclose.1 hclose.2 hts
    (fun p hp => (hparts p hp).exists_first hclose.1)
    (fun p hp used rest hu hl hr => (hcomplete p hp).phrase_expression hu hl hr) hused hlevels ?_
  rw [List.length_append]
  omega

/-- An entry of a map.

**Proof sketch.** The word is the key, the colon behind it is taken, and the value is read up to where
an expression ends. -/
lemma entry_of_written {x : Entry} (hkey : x.word.key? = some x.key)
    (hvalue : Complete g .conditional x.tokens x.value)
    (hused : used.map Lexeme.token = x.written) (hlevels : (used ++ rest).length < levels)
    (hrest : Closed rest) :
    entry (g.phrase levels) (used ++ rest) = .ok ((x.key, x.value), rest) := by
  obtain ⟨a, b, _, rfl, ht⟩ := exists_lexeme_cons hused
  obtain ⟨c, d, tail, rfl, hv⟩ := exists_lexeme_cons ht
  simp only [List.cons_append, List.length_cons] at hlevels
  have he := hvalue.phrase_expression hv (Nat.lt_of_succ_lt (Nat.lt_of_succ_lt hlevels)) hrest
  unfold Token.key? at hkey
  split at hkey
  case h_3 => cases hkey
  all_goals
    cases hkey
    simp_all [entry, expect]

/-- Entries of maps.

**Proof sketch.** This is the case of `items_of_separated` whose items are entries. An entry begins with
a word that is a key, which no closing symbol is. -/
lemma entries_of_separated {entries : List Entry} (a b : Nat)
    (hts : Separated (entries.map Entry.written) ts)
    (hkeys : ∀ x ∈ entries, x.word.key? = some x.key)
    (hcomplete : ∀ x ∈ entries, Complete g .conditional x.tokens x.value)
    (hused : used.map Lexeme.token = ts)
    (hlevels : (used ++ ⟨.symbol .rightBrace, a, b⟩ :: rest).length < levels) :
    items .rightBrace (entry (g.phrase levels))
      (used ++ ⟨.symbol .rightBrace, a, b⟩ :: rest).length
      (used ++ ⟨.symbol .rightBrace, a, b⟩ :: rest) =
        .ok (entries.map fun x => (x.key, x.value), rest) := by
  refine items_of_separated (by simp [closers]) (by simp) hts (fun x hx => ?_)
    (fun x hx used rest hu hl hr => entry_of_written (hkeys x hx) (hcomplete x hx) hu hl hr)
    hused hlevels ?_
  · refine ⟨x.word, _, rfl, fun hword => ?_⟩
    have := hkeys x hx
    rw [hword] at this
    cases this
  · rw [List.length_append]
    omega

/-- A literal is read as its value. -/
lemma complete_literal {t : Token} {v : Value} (h : t.literal? = some v) :
    Complete g .primary [t] (.literal v) := by
  intro levels used rest hused _ _
  obtain ⟨a, b, tail, rfl, ht⟩ := exists_lexeme_cons hused
  obtain rfl := List.map_eq_nil_iff.mp ht
  unfold Token.literal? at h
  split at h <;> cases h <;> rfl

/-- A name without arguments behind it is read as a variable. -/
lemma complete_variable (name : String) :
    Complete g .primary [.identifier name] (.var name) := by
  intro levels used rest hused _ hrest
  obtain ⟨a, b, tail, rfl, ht⟩ := exists_lexeme_cons hused
  obtain rfl := List.map_eq_nil_iff.mp ht
  rw [List.cons_append, List.nil_append, primary]
  exact fun c d tail => hrest c d tail

/-- A name with arguments in parentheses is read as a call of the function it stands for.

**Proof sketch.** The arguments are read as a list up to the closing parenthesis. The function exists
and takes so many of them, so the call is not refused. -/
lemma complete_call {name : String} {definition : Definition}
    {parts : List (List Token × Expr)} (hname : g.resolve name = some definition)
    (harity : definition.arity.accepts parts.length = true)
    (hparts : ∀ p ∈ parts, Derives g.resolve g.compile .conditional p.1 p.2)
    (hts : Separated (parts.map Prod.fst) ts)
    (ih : ∀ p ∈ parts, Complete g .conditional p.1 p.2) :
    Complete g .primary (.identifier name :: .symbol .leftParen :: (ts ++ [.symbol .rightParen]))
      (.call name definition (parts.map Prod.snd)) := by
  intro levels used rest hused hlevels _
  obtain ⟨a, b, _, rfl, h₁⟩ := exists_lexeme_cons hused
  obtain ⟨c, d, _, rfl, h₂⟩ := exists_lexeme_cons h₁
  obtain ⟨p, q, inside, rfl, hinside⟩ := exists_lexeme_concat h₂
  simp only [List.cons_append, List.append_assoc, List.nil_append, List.length_cons] at hlevels ⊢
  have hclose : Symbol.rightParen ∈ closers ∧ Symbol.rightParen ≠ .comma := by decide
  have hargs := list_of_separated p q hclose hts hparts ih hinside
    (Nat.lt_of_succ_lt hlevels)
  rw [primary, call]
  simp only [hname, hargs, List.length_map, harity, if_true]

/-- Items in brackets are read as an array.

**Proof sketch.** The items are read as a list up to the closing bracket. -/
lemma complete_array {parts : List (List Token × Expr)}
    (hparts : ∀ p ∈ parts, Derives g.resolve g.compile .conditional p.1 p.2)
    (hts : Separated (parts.map Prod.fst) ts)
    (ih : ∀ p ∈ parts, Complete g .conditional p.1 p.2) :
    Complete g .primary (.symbol .leftBracket :: (ts ++ [.symbol .rightBracket]))
      (.array (parts.map Prod.snd)) := by
  intro levels used rest hused hlevels _
  obtain ⟨a, b, _, rfl, h₁⟩ := exists_lexeme_cons hused
  obtain ⟨p, q, inside, rfl, hinside⟩ := exists_lexeme_concat h₁
  simp only [List.cons_append, List.append_assoc, List.nil_append, List.length_cons] at hlevels ⊢
  have hclose : Symbol.rightBracket ∈ closers ∧ Symbol.rightBracket ≠ .comma := by decide
  have hitems := list_of_separated p q hclose hts hparts ih hinside hlevels
  rw [primary]
  simp only [hitems]

/-- Entries in braces are read as a map.

**Proof sketch.** The entries are read one after the other up to the closing brace. -/
lemma complete_map {entries : List Entry} (hkeys : ∀ x ∈ entries, x.word.key? = some x.key)
    (hts : Separated (entries.map Entry.written) ts)
    (ih : ∀ x ∈ entries, Complete g .conditional x.tokens x.value) :
    Complete g .primary (.symbol .leftBrace :: (ts ++ [.symbol .rightBrace]))
      (.map (entries.map fun x => (x.key, x.value))) := by
  intro levels used rest hused hlevels _
  obtain ⟨a, b, _, rfl, h₁⟩ := exists_lexeme_cons hused
  obtain ⟨p, q, inside, rfl, hinside⟩ := exists_lexeme_concat h₁
  simp only [List.cons_append, List.append_assoc, List.nil_append, List.length_cons] at hlevels ⊢
  have hitems := entries_of_separated p q hts hkeys ih hinside hlevels
  rw [primary]
  simp only [hitems]

/-- An expression in parentheses is read as itself.

**Proof sketch.** It is read up to the closing parenthesis, which ends an expression, and that is taken. -/
lemma complete_parentheses (ih : Complete g .conditional ts e) :
    Complete g .primary (.symbol .leftParen :: (ts ++ [.symbol .rightParen])) e := by
  intro levels used rest hused hlevels _
  obtain ⟨a, b, _, rfl, h₁⟩ := exists_lexeme_cons hused
  obtain ⟨p, q, inside, rfl, hinside⟩ := exists_lexeme_concat h₁
  simp only [List.cons_append, List.append_assoc, List.nil_append, List.length_cons] at hlevels ⊢
  have he := ih.phrase_expression hinside hlevels (.cons (by decide) p q rest)
  rw [primary]
  simp only [he, expect_self]

/-! ## Accesses and signs -/

/-- A primary expression is read as an operand of accesses. -/
lemma complete_primary (ih : Complete g .primary ts e) : Complete g .accessed ts e := by
  intro levels used rest hused hlevels hrest
  refine ⟨levels, by rw [List.length_append] at hlevels; omega, ?_⟩
  rw [accessed, ih levels used rest hused hlevels hrest]

/-- A member of what is read before the dot is read as an access.

**Proof sketch.** What stands before the dot leads to the loop over accesses, with turns for all tokens
that are left. One turn takes the dot and the name. -/
lemma complete_member (name : String) (ih : Complete g .accessed ts e) :
    Complete g .accessed (ts ++ [.symbol .dot, .identifier name]) (.member e name) := by
  intro levels used rest hused hlevels _
  obtain ⟨a, b, first, _, rfl, hfirst, h₁⟩ := exists_lexeme_between hused
  obtain ⟨c, d, tail, rfl, h₂⟩ := exists_lexeme_cons h₁
  obtain rfl := List.map_eq_nil_iff.mp h₂
  rw [List.append_assoc] at hlevels ⊢
  obtain ⟨left, hleft, heq⟩ := ih levels first _ hfirst hlevels (by simp)
  simp only [List.cons_append, List.nil_append, List.length_cons] at hleft heq ⊢
  obtain ⟨left, rfl⟩ : ∃ n, left = n + 1 := ⟨left - 1, by omega⟩
  refine ⟨left, by omega, ?_⟩
  rw [heq, accesses]

/-- An element of what is read before the bracket is read as an access.

**Proof sketch.** What stands before the bracket leads to the loop over accesses. One turn takes the
brackets with the position between them, which ends where the closing bracket is. -/
lemma complete_index {us : List Token} {position : Expr} (ih : Complete g .accessed ts e)
    (ihp : Complete g .conditional us position) :
    Complete g .accessed (ts ++ .symbol .leftBracket :: (us ++ [.symbol .rightBracket]))
      (.index e position) := by
  intro levels used rest hused hlevels _
  obtain ⟨a, b, first, _, rfl, hfirst, h₁⟩ := exists_lexeme_between hused
  obtain ⟨c, d, inside, rfl, hinside⟩ := exists_lexeme_concat h₁
  simp only [List.append_assoc, List.cons_append, List.nil_append] at hlevels ⊢
  obtain ⟨left, hleft, heq⟩ := ih levels first _ hfirst hlevels (by simp)
  simp only [List.length_append, List.length_cons] at hleft hlevels
  obtain ⟨left, rfl⟩ : ∃ n, left = n + 1 := ⟨left - 1, by omega⟩
  have hp : g.phrase levels .expression (inside ++ ⟨.symbol .rightBracket, c, d⟩ :: rest) =
      .ok (position, ⟨.symbol .rightBracket, c, d⟩ :: rest) :=
    ihp.phrase_expression hinside (by simp only [List.length_append, List.length_cons]; omega)
      (.cons (by decide) c d rest)
  refine ⟨left, by omega, ?_⟩
  rw [heq, accesses]
  simp only [hp, expect_self]

/-- An operand of accesses is read as a signed operand, if it is read at all.

**Proof sketch.** Such an operand does not start with an operator that has a unary meaning, so nothing
is taken before it, and behind it there is no access to go on with. -/
lemma complete_accessed (h : Derives g.resolve g.compile .accessed ts e)
    (ih : Complete g .accessed ts e) : Complete g .signed ts e := by
  intro levels used rest hused hlevels hrest
  have hparen : ∀ a b tail, rest ≠ ⟨.symbol .leftParen, a, b⟩ :: tail := by
    rintro a b tail rfl
    exact hrest
  obtain ⟨left, -, heq⟩ := ih levels used rest hused hlevels hparen
  rw [accesses_of_noAccess hrest] at heq
  obtain ⟨t, us, rfl, ho | ⟨hs, -⟩⟩ := h.exists_cons
  · obtain ⟨a, b, tail, rfl, -⟩ := exists_lexeme_cons hused
    rw [List.cons_append] at heq ⊢
    unfold signed
    split
    · next s _ _ _ hcons =>
      cases hcons
      have hunary : s.unary? = none := by
        cases s <;> first | rfl | cases ho
      simp only [hunary]
      exact heq
    · exact heq
  · exact hs.elim

/-- An operator in front of an operand, with a minus taken into a number or not.

**Proof sketch.** The operator is taken, and the operand is read one level deeper. -/
lemma complete_signed (op : UnaryOperator) (ih : Complete g .signed ts e) :
    Complete g .signed (.symbol op.symbol :: ts) (.signed op e) := by
  intro levels used rest hused hlevels hrest
  obtain ⟨a, b, tail, rfl, htail⟩ := exists_lexeme_cons hused
  rw [List.cons_append] at hlevels ⊢
  have he := ih.phrase_signed htail hlevels hrest
  rw [signed]
  simp only [unary?_symbol, he]

/-! ## Levels of operators -/

/-- A signed operand is one of the tightest operators. -/
lemma complete_level (ih : Complete g .signed ts e) : Complete g (.level 13) ts e := by
  intro levels used rest hused hlevels hrest _ least _
  refine ⟨levels, by rw [List.length_append] at hlevels; omega, ?_⟩
  rw [operand, ih levels used rest hused hlevels hrest]

/-- An operand of tighter operators is one of looser operators. -/
lemma complete_tighter {k : Nat} (ih : Complete g (.level (k + 1)) ts e) :
    Complete g (.level k) ts e := by
  intro levels used rest hused hlevels hrest hnext least hleast
  refine ih levels used rest hused hlevels hrest (fun j hj => ?_) least (by omega)
  have := hnext j hj
  unfold behind at this ⊢
  split at this <;> split <;> omega

/-- What it means for tokens to be read as the left operand of an operator of a level: they lead to the
loop over operators, which is in front of that operator then. -/
def LeftOperand (g : Grammar) (k : Nat) (ts : List Token) (l : Expr) : Prop :=
  ∀ (levels : Nat) (used rest : List Lexeme), used.map Lexeme.token = ts →
    (used ++ rest).length ≤ levels → NoAccess rest → nextLevel? rest = some k →
    ∀ least ≤ k, ∃ left, rest.length ≤ left ∧
      g.operand (g.phrase levels) levels least (used ++ rest) =
        g.operators (g.phrase levels) least left l rest

/-- An operator with its operands is read as what they are joined to, or refused as their joining is.

**Proof sketch.** The left operand leads to the loop over operators, which finds the operator and
reads the right operand up to where the whole ends; then the loop goes on behind it, with one round
less. -/
lemma operand_join {k : Nat} {s : Symbol} {us : List Token} {l r : Expr} (hs : s.level? = some k)
    (hl : LeftOperand g k ts l) (hr : Complete g (.level (s.rightLevel k)) us r)
    (hused : used.map Lexeme.token = ts ++ .symbol s :: us)
    (hlevels : (used ++ rest).length ≤ levels) (hrest : NoAccess rest)
    (hnext : ∀ j, nextLevel? rest = some j → j < behind k) {least : Nat} (hleast : least ≤ k)
    (pos : Nat) :
    ∃ left, rest.length ≤ left ∧ g.operand (g.phrase levels) levels least (used ++ rest) =
      match g.combine s pos l r with
      | .error err => .error err
      | .ok e => g.operators (g.phrase levels) least left e rest := by
  obtain ⟨a, b, first, second, rfl, hfirst, hsecond⟩ := exists_lexeme_between hused
  rw [List.append_assoc] at hlevels ⊢
  obtain ⟨left, hleft, heq⟩ := hl levels first (⟨.symbol s, a, b⟩ :: (second ++ rest)) hfirst
    hlevels (noAccess_of_level hs a b) hs least hleast
  simp only [List.length_append, List.length_cons] at hleft hlevels
  obtain ⟨left, rfl⟩ : ∃ n, left = n + 1 := ⟨left - 1, by omega⟩
  have hright : g.phrase levels (.operand (s.rightLevel k)) (second ++ rest) = .ok (r, rest) := by
    refine hr.phrase_operand hsecond (by rw [List.length_append]; omega) hrest fun j hj => ?_
    rw [rightLevel_eq hs]
    exact hnext j hj
  refine ⟨left, by omega, ?_⟩
  rw [List.cons_append, heq, operators, combine_pos hs pos a]
  cases he : g.combine s a l r <;> simp only [hs, if_neg (Nat.not_lt.mpr hleast), hright, he]

/-- An operator with its operands, from what the parts are read as. -/
lemma complete_join {k : Nat} {s : Symbol} {us : List Token} {l r : Expr}
    (hs : s.level? = some k) (he : Joined g.compile s l r e) (hl : LeftOperand g k ts l)
    (hr : Complete g (.level (s.rightLevel k)) us r) :
    Complete g (.level k) (ts ++ .symbol s :: us) e := by
  intro levels used rest hused hlevels hrest hnext least hleast
  obtain ⟨left, hleft, heq⟩ := operand_join hs hl hr hused hlevels hrest hnext hleast 0
  rw [(combine_eq_ok_iff hs).mpr he] at heq
  exact ⟨left, hleft, heq⟩

/-- The left operand of an operator that groups to the left has its own level. -/
lemma Complete.leftOperand {k : Nat} {l : Expr} (h : Complete g (.level k) ts l) (hk : k ≤ 11) :
    LeftOperand g k ts l := by
  intro levels used rest hused hlevels hrest hnext
  refine h levels used rest hused hlevels hrest fun j hj => ?_
  obtain rfl := Option.some.inj (hnext.symm.trans hj)
  rw [behind, if_neg (by omega)]
  omega

/-- The right operand of an operator that groups to the left is one level tighter. -/
lemma rightLevel_of_le {s : Symbol} {k : Nat} (hs : s.level? = some k) (hk : k ≤ 11) :
    s.rightLevel k = k + 1 := by
  rw [rightLevel_eq hs, if_neg (by omega)]

/-- A chain of operators of one level that group to the left is read from left to right. -/
lemma complete_chain {k : Nat} {s : Symbol} {us : List Token} {l r : Expr} (hk : k ≤ 11)
    (hs : s ∈ operatorsOf k) (ihl : Complete g (.level k) ts l)
    (ihr : Complete g (.level (k + 1)) us r) (he : Joined g.compile s l r e) :
    Complete g (.level k) (ts ++ .symbol s :: us) e := by
  have hlevel := mem_operatorsOf.mp hs
  exact complete_join hlevel he (ihl.leftOperand hk)
    (rightLevel_of_le hlevel hk ▸ ihr)

/-- A power is read with all that comes behind its operator as the exponent.

**Proof sketch.** The base is a signed operand, so it is in front of the operator when the loop starts. -/
lemma complete_power {us : List Token} {l r : Expr} (ihl : Complete g .signed ts l)
    (ihr : Complete g (.level 12) us r) :
    Complete g (.level 12) (ts ++ .symbol .starStar :: us) (.binary .pow l r) := by
  refine complete_join rfl (.binary .pow l r) ?_ ihr
  intro levels used rest hused hlevels hrest hnext least hleast
  refine complete_level ihl levels used rest hused hlevels hrest (fun j hj => ?_) least (by omega)
  obtain rfl := Option.some.inj (hnext.symm.trans hj)
  decide

/-! ## Whole expressions -/

/-- The operand of the loosest operators, in front of what is no operator.

**Proof sketch.** There is no operator to go on with, so the loop over operators gives back the operand. -/
lemma Complete.operand_eq (h : Complete g (.level 2) ts e) (hused : used.map Lexeme.token = ts)
    (hlevels : (used ++ rest).length ≤ levels) (hrest : NoAccess rest)
    (hnext : nextLevel? rest = none) :
    g.operand (g.phrase levels) levels 0 (used ++ rest) = .ok (e, rest) := by
  have hfalse : ∀ m j, nextLevel? rest = some j → j < m := by
    intro m j hj
    rw [hnext] at hj
    cases hj
  obtain ⟨left, -, heq⟩ :=
    h levels used rest hused hlevels hrest (hfalse _) 0 (Nat.zero_le 2)
  exact heq.trans (operators_of_nextLevel (hfalse 0) left e)

/-- An operand without a question mark behind it is read as an expression of its own. -/
lemma complete_operand (ih : Complete g (.level 2) ts e) : Complete g .conditional ts e := by
  intro levels used rest hused hlevels hrest
  have hoperand := ih.operand_eq hused hlevels hrest.noAccess hrest.nextLevel?_eq
  obtain ⟨_, hquestion⟩ := hrest.expect_question
  rw [Grammar.conditional]
  simp only [hoperand, hquestion]

/-- A test with two alternatives is read as a choice.

**Proof sketch.** The test is read as an operand, since a question mark is no operator. Each alternative
is read one level deeper, the first one up to the colon, which ends an expression. -/
lemma complete_conditional {us vs : List Token} {test positive negative : Expr}
    (iht : Complete g (.level 2) ts test) (ihp : Complete g .conditional us positive)
    (ihn : Complete g .conditional vs negative) :
    Complete g .conditional (ts ++ .symbol .question :: (us ++ .symbol .colon :: vs))
      (.conditional test positive negative) := by
  intro levels used rest hused hlevels hrest
  obtain ⟨a, b, first, _, rfl, hfirst, h₁⟩ := exists_lexeme_between hused
  obtain ⟨c, d, second, third, rfl, hsecond, hthird⟩ := exists_lexeme_between h₁
  simp only [List.append_assoc, List.cons_append] at hlevels ⊢
  have ht : g.operand (g.phrase levels) levels 0 _ = .ok (test, _) :=
    iht.operand_eq hfirst hlevels trivial rfl
  simp only [List.length_append, List.length_cons] at hlevels
  have hp : g.phrase levels .expression (second ++ ⟨.symbol .colon, c, d⟩ :: (third ++ rest)) =
      .ok (positive, ⟨.symbol .colon, c, d⟩ :: (third ++ rest)) :=
    ihp.phrase_expression hsecond (by simp only [List.length_append, List.length_cons]; omega)
      (.cons (by decide) c d _)
  have hn : g.phrase levels .expression (third ++ rest) = .ok (negative, rest) :=
    ihn.phrase_expression hthird (by rw [List.length_append]; omega) hrest
  rw [Grammar.conditional]
  simp only [ht, expect_self, hp, hn]

/-- Every derivation is read.

**Proof sketch.** Induction on the derivation, with one production in each case. -/
lemma Derives.complete {n : Nonterminal} (h : Derives g.resolve g.compile n ts e) :
    Complete g n ts e := by
  induction h with
  | literal h => exact complete_literal h
  | «variable» name => exact complete_variable name
  | call hname harity hparts hts ih => exact complete_call hname harity hparts hts ih
  | array hparts hts ih => exact complete_array hparts hts ih
  | map hkeys _ hts ih => exact complete_map hkeys hts ih
  | parentheses _ ih => exact complete_parentheses ih
  | primary _ ih => exact complete_primary ih
  | member _ name ih => exact complete_member name ih
  | index _ _ ih ihp => exact complete_index ih ihp
  | accessed h ih => exact complete_accessed h ih
  | negative _ ih => exact complete_signed .negate ih
  | unary op _ hop ih =>
    rw [← signed_eq_unary hop]
    exact complete_signed op ih
  | signed _ ih => exact complete_level ih
  | tighter _ ih => exact complete_tighter ih
  | chain hk hs _ _ he ihl ihr => exact complete_chain hk hs ihl ihr he
  | power _ _ ihl ihr => exact complete_power ihl ihr
  | operand _ ih => exact complete_operand ih
  | conditional _ _ _ iht ihp ihn => exact complete_conditional iht ihp ihn

/-- An expression that leaves no tokens is the one that all tokens form. -/
lemma expression_of_phrase {tokens : List Lexeme} (hne : tokens ≠ [])
    (h : g.phrase g.limit .expression tokens = .ok (e, [])) : g.expression tokens = .ok e := by
  cases tokens with
  | nil => exact (hne rfl).elim
  | cons t tail => simp only [expression, h]

/-- A derivation from all tokens is read if the bound is greater than the number of tokens.

**Proof sketch.** Below the bound there are more levels than tokens, so the derivation is complete in
the sense of `Complete`, and nothing comes behind it. -/
lemma expression_of_derives {tokens : List Lexeme}
    (h : Derives g.resolve g.compile .conditional (tokens.map Lexeme.token) e)
    (hlimit : tokens.length < g.limit) : g.expression tokens = .ok e := by
  have hlength : (tokens ++ []).length < g.limit := by rwa [List.append_nil]
  have hphrase := h.complete.phrase_expression rfl hlength .nil
  rw [List.append_nil] at hphrase
  refine expression_of_phrase ?_ hphrase
  rintro rfl
  exact h.ne_nil rfl

/-- Two operands with an operator between them, the left of its own level and the right of a tighter one,
form what they are joined to, or are refused as their joining is.

**Proof sketch.** Nothing comes behind the right operand, so the loop over operators and the expression
end with it. -/
lemma expression_of_operands {tokens : List Lexeme} {k : Nat} {s : Symbol} {us : List Token}
    {l r : Expr} (hk : k ≤ 11) (hs : s.level? = some k)
    (hl : Derives g.resolve g.compile (.level k) ts l)
    (hr : Derives g.resolve g.compile (.level (k + 1)) us r)
    (htokens : tokens.map Lexeme.token = ts ++ .symbol s :: us) (hlimit : tokens.length < g.limit)
    (pos : Nat) : g.expression tokens = g.combine s pos l r := by
  obtain ⟨n, hn⟩ : ∃ n, g.limit = n + 1 := ⟨g.limit - 1, by omega⟩
  have hlevels : (tokens ++ []).length ≤ n := by
    rw [List.append_nil]
    omega
  have hnext (m j : Nat) (h : nextLevel? [] = some j) : j < m := by cases h
  obtain ⟨left, -, hoperand⟩ := operand_join hs (hl.complete.leftOperand hk)
    (rightLevel_of_le hs hk ▸ hr.complete) htokens hlevels trivial (hnext _) (Nat.zero_le k) pos
  rw [List.append_nil] at hoperand
  -- Behind the right operand there is nothing, so the loops over operators and the branches end there.
  have hphrase : g.phrase g.limit .expression tokens =
      match g.combine s pos l r with
      | .error err => .error err
      | .ok e => .ok (e, []) := by
    rw [hn, phrase, conditional, hoperand]
    cases g.combine s pos l r with
    | error err => rfl
    | ok e =>
      dsimp only
      rw [operators_of_nextLevel (hnext 0)]
      rfl
  have hne : tokens ≠ [] := by
    rintro rfl
    simp at htokens
  rw [expression, hphrase]
  · cases g.combine s pos l r <;> rfl
  · exact hne

/-- The grammar is unambiguous: tokens derive at most one expression.

**Proof sketch.** Wherever the tokens stand in a text, the reader makes one thing of them, and that
is whatever they derive. -/
lemma Derives.unique {resolve : String → Option Definition} {compile : String → Option Pattern}
    {ts : List Token} {e e' : Expr} (h : Derives resolve compile .conditional ts e)
    (h' : Derives resolve compile .conditional ts e') : e = e' := by
  have hmap : (ts.map fun t => (⟨t, 0, 0⟩ : Lexeme)).map Lexeme.token = ts := by
    rw [List.map_map]
    exact List.map_id' ts
  have hread : ∀ e, Derives resolve compile .conditional ts e →
      Grammar.expression ⟨resolve, compile, ts.length + 1, 0⟩ (ts.map fun t => ⟨t, 0, 0⟩) = .ok e :=
    fun e h => expression_of_derives (by rwa [hmap]) (by simp)
  exact Except.ok.inj ((hread e h).symm.trans (hread e' h'))

/-- **The reader accepts exactly the language of the grammar, and the grammar is unambiguous.** If
the bound is greater than the number of tokens, a source text is read as an expression exactly if
its tokens derive that expression. Tokens derive at most one expression.

**Proof sketch.** Soundness and completeness of the reader of tokens. -/
theorem parse_eq_ok_iff (resolve : String → Option Definition) (compile : String → Option Pattern)
    {source : String} {tokens : List Lexeme} {stop limit : Nat}
    (ht : Lexeme.ofChars source.toList = .ok (tokens, stop)) (hlimit : tokens.length + 1 ≤ limit) :
    (∀ e, Grammar.parse resolve compile limit source = .ok e ↔
      Derives resolve compile .conditional (tokens.map Lexeme.token) e) ∧
    ∀ e e', Derives resolve compile .conditional (tokens.map Lexeme.token) e →
      Derives resolve compile .conditional (tokens.map Lexeme.token) e' → e = e' := by
  have hparse : Grammar.parse resolve compile limit source = _ := Grammar.parse_eq ht limit
  refine ⟨fun e => ⟨fun h => ?_, fun h => ?_⟩, fun e e' => Derives.unique⟩
  · exact derives_of_expression (hparse.symm.trans h)
  · exact hparse.trans (expression_of_derives h hlimit)

/-- The text `a ** b ** c - d ? [e,] : x[y].z` is read as a choice between the list of `e` and a member
of an element of `x`, by what is left when `d` is taken from `a ** (b ** c)`. Its tokens derive this
expression and no other.

**Proof sketch.** The source is taken apart and read by evaluation. What is read derives the tokens by
the general theorem, which also says that nothing else does. -/
theorem parse_eq_ok_iff_power_in_alternative :
    let source := "a ** b ** c - d ? [e,] : x[y].z"
    let tree : Expr := .conditional
      (.binary .sub (.binary .pow (.var "a") (.binary .pow (.var "b") (.var "c"))) (.var "d"))
      (.array [.var "e"]) (.member (.index (.var "x") (.var "y")) "z")
    ∃ tokens stop, Lexeme.ofChars source.toList = .ok (tokens, stop) ∧ tokens.length + 1 ≤ 20 ∧
      Grammar.parse (fun _ => none) (fun _ => none) 20 source = .ok tree ∧
      ∀ e, Derives (fun _ => none) (fun _ => none) .conditional (tokens.map Lexeme.token) e ↔
        e = tree := by
  intro source tree
  have ht : Lexeme.ofChars source.toList = .ok ([
      ⟨.identifier "a", 0, 1⟩, ⟨.symbol .starStar, 2, 4⟩, ⟨.identifier "b", 5, 6⟩,
      ⟨.symbol .starStar, 7, 9⟩, ⟨.identifier "c", 10, 11⟩, ⟨.symbol .minus, 12, 13⟩,
      ⟨.identifier "d", 14, 15⟩, ⟨.symbol .question, 16, 17⟩, ⟨.symbol .leftBracket, 18, 19⟩,
      ⟨.identifier "e", 19, 20⟩, ⟨.symbol .comma, 20, 21⟩, ⟨.symbol .rightBracket, 21, 22⟩,
      ⟨.symbol .colon, 23, 24⟩, ⟨.identifier "x", 25, 26⟩, ⟨.symbol .leftBracket, 26, 27⟩,
      ⟨.identifier "y", 27, 28⟩, ⟨.symbol .rightBracket, 28, 29⟩, ⟨.symbol .dot, 29, 30⟩,
      ⟨.identifier "z", 30, 31⟩], 31) := by
    decide +kernel
  have hparse : Grammar.parse (fun _ => none) (fun _ => none) 20 source = .ok tree := by
    rw [Grammar.parse_eq ht]
    rfl
  obtain ⟨hiff, hunique⟩ :=
    parse_eq_ok_iff (fun _ => none) (fun _ => none) ht (show _ ≤ 20 by decide)
  have htree := (hiff tree).mp hparse
  refine ⟨_, _, ht, by decide, hparse, fun e => ⟨fun he => hunique e tree he htree, ?_⟩⟩
  rintro rfl
  exact htree

end Grammar

end Formula
