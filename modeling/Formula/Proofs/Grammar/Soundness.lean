import Formula.Proofs.Grammar.Run

set_option autoImplicit false

/-!
# Readings are derivations

Whatever the reader makes of the tokens it takes, the grammar derives it from them.

The reader of operators climbs levels in one loop where the grammar has a production for each level.
The loop keeps this invariant: what has been read can stand to the left of whatever operator comes
next. It holds behind an operator of level `k` because the right operand has been read up to an
operator that is looser than `k`, so the next operator is of level `k` or looser and, if `k` is
`12`, looser than `12`.

## Main definitions

* `Formula.Grammar.Reads` — a part of the grammar is taken from the tokens.
* `Formula.Grammar.Sound` — all that a reader of phrases reads is derived.

## Main results

* `Formula.Grammar.OperatorsRun.reads` — the loop over operators keeps its invariant.
* `Formula.Grammar.phrase_sound` — the reader of phrases is sound.
* `Formula.Grammar.derives_of_expression` — an expression that is read from all tokens is derived.
-/

namespace Formula

/-- The part of the grammar that a phrase is. Behind level `12` come operands without operators
between them. -/
def Phrase.nonterminal (p : Phrase) : Grammar.Nonterminal :=
  match p with
  | .expression => .conditional
  | .operand least => .level (min least 13)
  | .signed => .signed

/-- An operand ends where no operator of its levels comes next. -/
def Phrase.StopsAt (p : Phrase) (rest : List Lexeme) : Prop :=
  match p with
  | .operand least => ∀ k, Grammar.nextLevel? rest = some k → k < least
  | _ => True

namespace Grammar

variable {resolve : String → Option Definition} {compile : String → Option Pattern} {g : Grammar}
  {inner : Inner} {tokens mid rest : List Lexeme} {e e' : Expr}

/-- `Reads resolve compile n tokens e rest`: what `tokens` have before `rest` is an `n` of the grammar that
stands for `e`. -/
def Reads (resolve : String → Option Definition) (compile : String → Option Pattern)
    (n : Nonterminal) (tokens : List Lexeme) (e : Expr) (rest : List Lexeme) : Prop :=
  ∃ used, tokens = used ++ rest ∧ Derives resolve compile n (used.map Lexeme.token) e

/-- All that a reader of phrases reads is derived, and ends where it has to. -/
def Sound (resolve : String → Option Definition) (compile : String → Option Pattern)
    (inner : Inner) : Prop :=
  ∀ p tokens e rest, inner p tokens = .ok (e, rest) →
    Reads resolve compile p.nonterminal tokens e rest ∧ p.StopsAt rest

/-- A nested expression that is read is derived as a conditional. -/
lemma Sound.expression (hi : Sound resolve compile inner)
    (h : inner .expression tokens = .ok (e, rest)) :
    Reads resolve compile .conditional tokens e rest :=
  (hi _ _ _ _ h).1

/-- What is read as one part of the grammar is read as every part that takes all its phrases. -/
lemma Reads.mono {m n : Nonterminal} (h : Reads resolve compile m tokens e rest)
    (hmn : ∀ ts, Derives resolve compile m ts e → Derives resolve compile n ts e) :
    Reads resolve compile n tokens e rest := by
  obtain ⟨used, rfl, hd⟩ := h
  exact ⟨used, rfl, hmn _ hd⟩

/-- Every part of the grammar takes at least one token.

**Proof sketch.** A derivation uses at least one token. -/
lemma Reads.length_lt {n : Nonterminal} (h : Reads resolve compile n tokens e rest) :
    rest.length < tokens.length := by
  obtain ⟨used, rfl, hd⟩ := h
  have hne : used ≠ [] := by
    rintro rfl
    exact hd.ne_nil rfl
  have := List.length_pos_iff.mpr hne
  rw [List.length_append]
  omega

/-- What stands behind a part of the grammar is a suffix of the tokens. -/
lemma Reads.suffix {n : Nonterminal} (h : Reads resolve compile n tokens e rest) : rest <:+ tokens := by
  obtain ⟨used, rfl, -⟩ := h
  exact List.suffix_append used rest

/-- A reader of phrases leaves an end of the tokens. -/
lemma Sound.suffix (hi : Sound resolve compile inner) {p : Phrase} (h : inner p tokens = .ok (e, rest)) :
    rest <:+ tokens :=
  (hi _ _ _ _ h).1.suffix

/-- A reader of entries leaves an end of the tokens. -/
lemma Sound.entry_suffix (hi : Sound resolve compile inner) {x : String × Expr}
    (h : entry inner tokens = .ok (x, rest)) : rest <:+ tokens := by
  obtain ⟨_, _, _, mid, tail, rfl, -, hcolon, he⟩ := entry_ok h
  exact ((hi.suffix he).trans (suffix_of_expect hcolon)).trans (List.suffix_cons _ mid)

/-! ## Items -/

/-- The items of a list are parts with commas between them, up to the closing symbol. What an item
is written as, what it is read as and what is known of it are left open, so that this holds of
arguments and of entries.

**Proof sketch.** Induction on the run. Each item adds its part, and a comma in front of the parts that
follow. -/
lemma ItemsRun.exists_separated {α β : Type} {written : β → List Token} {value : β → α}
    {P : β → Prop} {close : Symbol} {item : List Lexeme → Outcome α} {xs : List α}
    (hitem : ∀ ts x mid, item ts = .ok (x, mid) →
      ∃ b used, ts = used ++ mid ∧ used.map Lexeme.token = written b ∧ value b = x ∧ P b)
    (h : ItemsRun close item tokens xs rest) :
    ∃ (parts : List β) (ts : List Token) (used : List Lexeme),
      tokens = used ++ rest ∧ used.map Lexeme.token = ts ++ [.symbol close] ∧
      Separated (parts.map written) ts ∧ parts.map value = xs ∧ ∀ b ∈ parts, P b := by
  induction h with
  | none h =>
    obtain ⟨a, b, rfl⟩ := expect_eq_ok_iff.mp h
    exact ⟨[], [], [⟨.symbol close, a, b⟩], rfl, rfl, .none, rfl, by simp⟩
  | last hx h =>
    obtain ⟨part, used, rfl, hu, rfl, hP⟩ := hitem _ _ _ hx
    obtain ⟨a, b, rfl⟩ := expect_eq_ok_iff.mp h
    refine ⟨[part], written part, used ++ [⟨.symbol close, a, b⟩], by simp, by simp [hu],
      .last _, rfl, by simpa using hP⟩
  | more hx hc _ ih =>
    obtain ⟨part, used, rfl, hu, rfl, hP⟩ := hitem _ _ _ hx
    obtain ⟨a, b, rfl⟩ := expect_eq_ok_iff.mp hc
    obtain ⟨parts, ts, used', rfl, hu', hs, rfl, hPs⟩ := ih
    refine ⟨part :: parts, written part ++ .symbol .comma :: ts,
      used ++ ⟨.symbol .comma, a, b⟩ :: used', by simp, by simp [hu, hu'], .more _ hs, rfl, ?_⟩
    exact List.forall_mem_cons.mpr ⟨hP, hPs⟩

/-- Arguments and items of arrays. -/
lemma ItemsRun.exists_parts {close : Symbol} {es : List Expr} (hi : Sound resolve compile inner)
    (h : ItemsRun close (inner .expression) tokens es rest) :
    ∃ (parts : List (List Token × Expr)) (ts : List Token) (used : List Lexeme),
      tokens = used ++ rest ∧ used.map Lexeme.token = ts ++ [.symbol close] ∧
      Separated (parts.map Prod.fst) ts ∧ parts.map Prod.snd = es ∧
      ∀ p ∈ parts, Derives resolve compile .conditional p.1 p.2 := by
  refine h.exists_separated fun ts x mid hx => ?_
  obtain ⟨used, rfl, hd⟩ := hi.expression hx
  exact ⟨(used.map Lexeme.token, x), used, rfl, rfl, rfl, hd⟩

/-- Entries of maps. -/
lemma ItemsRun.exists_entries {fields : List (String × Expr)} (hi : Sound resolve compile inner)
    (h : ItemsRun .rightBrace (entry inner) tokens fields rest) :
    ∃ (entries : List Entry) (ts : List Token) (used : List Lexeme),
      tokens = used ++ rest ∧ used.map Lexeme.token = ts ++ [.symbol .rightBrace] ∧
      Separated (entries.map Entry.written) ts ∧
      entries.map (fun x => (x.key, x.value)) = fields ∧
      ∀ x ∈ entries, x.word.key? = some x.key ∧
        Derives resolve compile .conditional x.tokens x.value := by
  refine h.exists_separated fun ts x mid hx => ?_
  obtain ⟨word, a, b, colon, tail, rfl, hkey, hcolon, he⟩ := entry_ok hx
  obtain ⟨c, d, rfl⟩ := expect_eq_ok_iff.mp hcolon
  obtain ⟨used, rfl, hd⟩ := hi.expression he
  exact ⟨⟨word, x.1, used.map Lexeme.token, x.2⟩, ⟨word, a, b⟩ :: ⟨.symbol .colon, c, d⟩ :: used,
    rfl, rfl, rfl, hkey, hd⟩

/-! ## Operands -/

/-- An operand without operators and accesses is derived.

**Proof sketch.** One case for each form. The brackets are tokens of the form, and what stands between
them is derived because the reader of phrases is sound. -/
lemma PrimaryRun.reads (hi : Sound g.resolve g.compile inner) (h : PrimaryRun g inner tokens e rest) :
    Reads g.resolve g.compile .primary tokens e rest := by
  cases h with
  | literal h => exact ⟨[_], rfl, .literal h⟩
  | «variable» name a b => exact ⟨[⟨.identifier name, a, b⟩], rfl, .variable name⟩
  | call hname hargs harity =>
    obtain ⟨parts, ts, used, rfl, hu, hts, rfl, hparts⟩ := hargs.exists_parts hi
    refine ⟨_ :: _ :: used, rfl, ?_⟩
    rw [List.map_cons, List.map_cons, hu]
    exact .call hname (by simpa using harity) hparts hts
  | array hes =>
    obtain ⟨parts, ts, used, rfl, hu, hts, rfl, hparts⟩ := hes.exists_parts hi
    refine ⟨_ :: used, rfl, ?_⟩
    rw [List.map_cons, hu]
    exact .array hparts hts
  | map hentries =>
    obtain ⟨entries, ts, used, rfl, hu, hts, rfl, hx⟩ := hentries.exists_entries hi
    refine ⟨_ :: used, rfl, ?_⟩
    rw [List.map_cons, hu]
    exact .map (fun x hm => (hx x hm).1) (fun x hm => (hx x hm).2) hts
  | @parentheses a b _ _ _ _ he hclose =>
    obtain ⟨used, rfl, hd⟩ := hi.expression he
    obtain ⟨c, d, rfl⟩ := expect_eq_ok_iff.mp hclose
    refine ⟨⟨.symbol .leftParen, a, b⟩ :: (used ++ [⟨.symbol .rightParen, c, d⟩]), by simp, ?_⟩
    simpa using Derives.parentheses hd

/-- Accesses go on with what an operand has been read as.

**Proof sketch.** Induction on the run, for every operand that has been read so far. -/
lemma AccessesRun.reads {left : Nat} {ts : List Token} (hi : Sound resolve compile inner)
    (h : AccessesRun inner left e tokens e' rest) (hd : Derives resolve compile .accessed ts e) :
    ∃ used, tokens = used ++ rest ∧
      Derives resolve compile .accessed (ts ++ used.map Lexeme.token) e' := by
  induction h generalizing ts with
  | stop => exact ⟨[], rfl, by simpa using hd⟩
  | @member _ a b c d name _ _ _ _ _ ih =>
    obtain ⟨used, rfl, hd'⟩ := ih (hd.member name)
    exact ⟨⟨.symbol .dot, a, b⟩ :: ⟨.identifier name, c, d⟩ :: used, rfl, by simpa using hd'⟩
  | @index _ a b _ _ _ _ _ _ _ hp hclose _ ih =>
    obtain ⟨inside, rfl, hpos⟩ := hi.expression hp
    obtain ⟨c, d, rfl⟩ := expect_eq_ok_iff.mp hclose
    obtain ⟨used, rfl, hd'⟩ := ih (hd.index hpos)
    refine ⟨⟨.symbol .leftBracket, a, b⟩ :: (inside ++ ⟨.symbol .rightBracket, c, d⟩ :: used),
      by simp, by simpa using hd'⟩

/-- A signed operand is derived. -/
lemma signed_reads {levels : Nat} (hi : Sound g.resolve g.compile inner)
    (h : g.signed inner levels tokens = .ok (e, rest)) :
    Reads g.resolve g.compile .signed tokens e rest := by
  obtain ⟨op, a, b, tail, operand, rfl, ho, rfl⟩ | ⟨e₀, mid, hp, ha⟩ := signed_ok h
  · obtain ⟨⟨used, rfl, hd⟩, -⟩ := hi _ _ _ _ ho
    exact ⟨⟨.symbol op.symbol, a, b⟩ :: used, rfl, hd.signed_cons op⟩
  · obtain ⟨first, rfl, hd⟩ := hp.reads hi
    obtain ⟨used, rfl, hd'⟩ := ha.reads hi (.primary hd)
    exact ⟨first ++ used, by simp, .accessed (by simpa using hd')⟩

/-! ## The loop over operators -/

/-- What stands to the left of an operator of a level. -/
def leftPart (k : Nat) : Nonterminal :=
  if k = 12 then .signed else .level k

/-- The level of the right operand of an operator. -/
lemma rightLevel_eq {s : Symbol} {k : Nat} (hs : s.level? = some k) :
    s.rightLevel k = if k = 12 then 12 else k + 1 := by
  unfold Symbol.rightLevel
  by_cases hk : k = 12
  · subst hk
    simp [level_eq_twelve hs]
  · have hne : s ≠ .starStar := by
      rintro rfl
      exact hk (Option.some.inj hs).symm
    simp [hk, hne]

/-- An operator with its operands is on the level of the operator.

**Proof sketch.** The power takes a signed operand on its left and its own level on its right. Every
other operator is part of a chain, with an operand of the next level on its right. -/
lemma Derives.join {s : Symbol} {k pos : Nat} {ts us : List Token} {l r e : Expr}
    (hs : s.level? = some k) (hl : Derives g.resolve g.compile (leftPart k) ts l)
    (hr : Derives g.resolve g.compile (.level (min (s.rightLevel k) 13)) us r)
    (he : g.combine s pos l r = .ok e) :
    Derives g.resolve g.compile (.level k) (ts ++ .symbol s :: us) e := by
  have hbounds := level_bounds hs
  rw [rightLevel_eq hs] at hr
  by_cases hk : k = 12
  · subst hk
    obtain rfl := level_eq_twelve hs
    cases he
    exact .power hl hr
  · rw [leftPart, if_neg hk] at hl
    rw [if_neg hk, Nat.min_eq_left (by omega)] at hr
    exact .chain (by omega) (mem_operatorsOf.mpr hs) hl hr ((combine_eq_ok_iff hs).mp he)

/-- Behind an operator of level `k` and its right operand only looser operators come, and these can
take what has been read as their left operand. -/
lemma Derives.leftPart_of_next {s : Symbol} {k j : Nat} {ts : List Token}
    (hs : s.level? = some k) (hj : j < s.rightLevel k) (h : Derives resolve compile (.level k) ts e) :
    Derives resolve compile (leftPart j) ts e := by
  have hbounds := level_bounds hs
  rw [rightLevel_eq hs] at hj
  have hjk : j ≤ k ∧ j ≠ 12 := by
    split at hj <;> omega
  rw [leftPart, if_neg hjk.2]
  exact h.level_mono hjk.1

/-- The loop over operators keeps two things of what it has read: it is an operand of the least
level, and whatever operator comes next can take it as its left operand.

**Proof sketch.** Induction on the rounds. In a round with an operator of level `k`, the second part
of the invariant makes the left operand fit, `Derives.join` puts the round together, and both parts
hold again behind it because the right operand ends where `Derives.leftPart_of_next` needs it. -/
lemma OperatorsRun.reads {least left : Nat} {ts : List Token} (hi : Sound g.resolve g.compile inner)
    (h : OperatorsRun g inner least left e tokens e' rest)
    (hd : Derives g.resolve g.compile (.level (min least 13)) ts e)
    (hnext : ∀ k, nextLevel? tokens = some k → Derives g.resolve g.compile (leftPart k) ts e) :
    ∃ used, tokens = used ++ rest ∧
      Derives g.resolve g.compile (.level (min least 13)) (ts ++ used.map Lexeme.token) e' ∧
      ∀ k, nextLevel? rest = some k → k < least := by
  induction h generalizing ts with
  | stop _ _ h => exact ⟨[], rfl, by simpa using hd, h⟩
  | @step _ a b k s l r e e' tokens mid rest hs hk hr he _ ih =>
    obtain ⟨⟨right, rfl, hright⟩, hstop⟩ := hi _ _ _ _ hr
    have hjoin := (hnext k hs).join hs hright he
    obtain ⟨used, rfl, hd', hend⟩ := ih (hjoin.level_mono (by omega))
      fun j hj => hjoin.leftPart_of_next hs (hstop j hj)
    exact ⟨⟨.symbol s, a, b⟩ :: (right ++ used), by simp, by simpa using hd', hend⟩

/-- An operand of some level is derived on this level, and ends in front of an operator of a lower one.

**Proof sketch.** The first operand has no sign or only prefixes, so it is on every level, and the
operators behind it go on from there. -/
lemma operand_reads {levels least : Nat} (hi : Sound g.resolve g.compile inner)
    (h : g.operand inner levels least tokens = .ok (e, rest)) :
    Reads g.resolve g.compile (.level (min least 13)) tokens e rest ∧
      ∀ k, nextLevel? rest = some k → k < least := by
  obtain ⟨e₀, mid, hs, ho⟩ := operand_ok h
  obtain ⟨first, rfl, hd⟩ := signed_reads hi hs
  have hlevel : ∀ k ≤ 13, Derives g.resolve g.compile (.level k) (first.map Lexeme.token) e₀ :=
    fun k hk => (Derives.signed hd).level_mono hk
  obtain ⟨used, rfl, hd', hend⟩ := ho.reads hi (hlevel _ (Nat.min_le_right _ _)) fun k hk => by
    unfold leftPart
    split
    · exact hd
    · unfold nextLevel? at hk
      split at hk
      · exact hlevel k (by have := level_bounds hk; omega)
      · cases hk
  exact ⟨⟨first ++ used, by simp, by simpa using hd'⟩, hend⟩

/-! ## Phrases -/

/-- A conditional is derived, with or without its two branches.

**Proof sketch.** The condition is an operand of the lowest level. A question mark behind it is followed
by two expressions, which are derived because the reader of phrases is sound. -/
lemma conditional_reads {levels : Nat} (hi : Sound g.resolve g.compile inner)
    (h : g.conditional inner levels tokens = .ok (e, rest)) :
    Reads g.resolve g.compile .conditional tokens e rest := by
  obtain ⟨test, mid, ht, ⟨rfl, rfl⟩ | ⟨tail, positive, colon, last, negative, hq, hp, hc, hn,
    rfl⟩⟩ := conditional_ok h
  · exact (operand_reads hi ht).1.mono fun ts hd => .operand (hd.level_two (by omega))
  · obtain ⟨⟨first, rfl, hfirst⟩, -⟩ := operand_reads hi ht
    obtain ⟨a, b, rfl⟩ := expect_eq_ok_iff.mp hq
    obtain ⟨second, rfl, hsecond⟩ := hi.expression hp
    obtain ⟨c, d, rfl⟩ := expect_eq_ok_iff.mp hc
    obtain ⟨third, rfl, hthird⟩ := hi.expression hn
    refine ⟨first ++ ⟨.symbol .question, a, b⟩ :: (second ++ ⟨.symbol .colon, c, d⟩ :: third),
      by simp, ?_⟩
    simpa using Derives.conditional (hfirst.level_two (by omega)) hsecond hthird

/-- The reader of phrases is sound, however many levels are left.

**Proof sketch.** Induction on the levels that are left. -/
lemma phrase_sound (g : Grammar) (levels : Nat) : Sound g.resolve g.compile (g.phrase levels) := by
  induction levels with
  | zero =>
    intro p tokens e rest h
    cases h
  | succ levels ih =>
    intro p tokens e rest h
    cases p with
    | expression => exact ⟨conditional_reads ih h, trivial⟩
    | operand least => exact operand_reads ih h
    | signed => exact ⟨signed_reads ih h, trivial⟩

/-- An expression that is read from all tokens is derived from them. -/
lemma derives_of_expression (h : g.expression tokens = .ok e) :
    Derives g.resolve g.compile .conditional (tokens.map Lexeme.token) e := by
  obtain ⟨used, rfl, hd⟩ := (phrase_sound g _).expression (expression_ok h)
  rwa [List.append_nil]

end Grammar

end Formula
