import Formula.Proofs.Grammar.Completeness
import Formula.Proofs.Grammar.Height

set_option autoImplicit false

/-!
# The highest expressions

For every bound on nesting there is a text whose expression is as high as any can get under that
bound. It is a tower: an array of the tower for the bound before, with as many accesses, as many
operators and as many alternatives behind it as the bound allows.

## Main definitions

* `Formula.Grammar.tower` — the symbols of the tower, and `Formula.Grammar.towerExpr`, its
  expression.
* `Formula.Grammar.towerText` — the source text.

## Main results

* `Formula.Grammar.phrase_tower` — the symbols are read as the expression.
* `Formula.Grammar.ofChars_tower` — the text has these symbols.
* `Formula.Grammar.greatest_height` — the greatest height under a bound.
-/

namespace Formula

namespace Grammar

/-! ## Towers -/

/-- Symbols again and again. -/
def repeated (k : Nat) (ss : List Symbol) : List Symbol :=
  (List.replicate k ss).flatten

/-- The symbols of the tower for the bound `n + 1`. -/
def tower : Nat → List Symbol
  | 0 => [.leftBracket, .rightBracket]
  | n + 1 =>
    .leftBracket :: (tower n ++ .rightBracket ::
      (repeated (n + 1) [.leftBracket, .leftBracket, .rightBracket, .rightBracket] ++
        (repeated (n + 1) [.plus, .leftBracket, .rightBracket] ++
          [.question, .leftBracket, .rightBracket, .colon, .leftBracket, .rightBracket])))

/-- Once more in front. -/
lemma repeated_succ (k : Nat) (ss : List Symbol) : repeated (k + 1) ss = ss ++ repeated k ss := by
  rw [repeated, repeated, List.replicate_succ, List.flatten_cons]

/-- An expression with `k` accesses behind it. -/
def indexed : Nat → Expr → Expr
  | 0, e => e
  | k + 1, e => indexed k (.index e (.array []))

/-- An expression with `k` operands added to it. -/
def added : Nat → Expr → Expr
  | 0, e => e
  | k + 1, e => added k (.binary .add e (.array []))

/-- The expression of the tower for the bound `n + 1`. -/
def towerExpr : Nat → Expr
  | 0 => .array []
  | n + 1 =>
    .conditional (added (n + 1) (indexed (n + 1) (.array [towerExpr n]))) (.array []) (.array [])

/-- Symbols of one byte each, one behind the other. -/
def placed (pos : Nat) : List Symbol → List Lexeme
  | [] => []
  | s :: ss => ⟨.symbol s, pos, pos + 1⟩ :: placed (pos + 1) ss

/-- Symbols one behind the other stand behind each other. -/
lemma placed_append (ss us : List Symbol) (pos : Nat) :
    placed pos (ss ++ us) = placed pos ss ++ placed (pos + ss.length) us := by
  induction ss generalizing pos with
  | nil => rfl
  | cons s ss ih =>
    simp only [List.cons_append, placed, ih, List.length_cons]
    rw [Nat.add_assoc, Nat.add_comm 1]

/-! ## How high they are -/

/-- Each access makes an expression one higher.

**Proof sketch.** Induction on the number of accesses. The position is an empty array, which is not
higher than the operand. -/
lemma height_indexed (k : Nat) (e : Expr) : (indexed k e).height = e.height + k := by
  induction k generalizing e with
  | zero => rfl
  | succ k ih =>
    have := e.height_pos
    simp only [indexed, ih, Expr.height, Expr.heightAll]
    omega

/-- Each operand that is added makes an expression one higher.

**Proof sketch.** Induction on the number of operands. The operand is an empty array, which is not
higher than what it is added to. -/
lemma height_added (k : Nat) (e : Expr) : (added k e).height = e.height + k := by
  induction k generalizing e with
  | zero => rfl
  | succ k ih =>
    have := e.height_pos
    simp only [added, ih, Expr.height, Expr.heightAll]
    omega

/-- The height of the tower.

**Proof sketch.** Induction on the tower. One more level adds two for the brackets and the alternatives,
and as many accesses and operands as the bound allows. -/
lemma height_towerExpr (n : Nat) : (towerExpr n).height + 1 = (n + 1) * (n + 2) := by
  induction n with
  | zero => rfl
  | succ n ih =>
    have hsquare : (n + 1 + 1) * (n + 1 + 2) = (n + 1) * (n + 2) + 2 * n + 4 := by ring
    simp only [towerExpr, Expr.height, height_added, height_indexed, Expr.heightAll]
    omega

/-! ## How they are read -/

variable {g : Grammar} {rest : List Lexeme}

/-- An empty array is read as an operand, if no access comes next.

**Proof sketch.** The closing bracket comes first, so there are no items. -/
lemma signed_empty (inner : Inner) (levels a b c d : Nat) (h : NoAccess rest) :
    g.signed inner levels (⟨.symbol .leftBracket, a, b⟩ :: ⟨.symbol .rightBracket, c, d⟩ :: rest) =
      .ok (.array [], rest) := by
  have hitems (fuel : Nat) : items .rightBracket (inner .expression) fuel
      (⟨.symbol .rightBracket, c, d⟩ :: rest) = .ok ([], rest) := by
    unfold items
    rw [expect_self]
  simp only [signed, Symbol.unary?, accessed, primary, hitems]
  exact accesses_of_noAccess h levels _

/-- An empty array is read as an operand of operators, if none comes next that is tight enough. -/
lemma operand_empty (inner : Inner) (levels a b c d : Nat) {least : Nat} (h : NoAccess rest)
    (hnext : ∀ k, nextLevel? rest = some k → k < least) :
    g.operand inner levels least
        (⟨.symbol .leftBracket, a, b⟩ :: ⟨.symbol .rightBracket, c, d⟩ :: rest) =
      .ok (.array [], rest) := by
  rw [operand, signed_empty inner levels a b c d h]
  exact operators_of_nextLevel hnext levels _

/-- An empty array is read as an expression where one ends.

**Proof sketch.** What ends an expression is no access, no operator and no question mark. -/
lemma phrase_expression_empty (levels a b c d : Nat) (h : Closed rest) :
    g.phrase (levels + 1) .expression
        (⟨.symbol .leftBracket, a, b⟩ :: ⟨.symbol .rightBracket, c, d⟩ :: rest) =
      .ok (.array [], rest) := by
  have hnext : ∀ k, nextLevel? rest = some k → k < 0 := by
    intro k hk
    rw [h.nextLevel?_eq] at hk
    cases hk
  obtain ⟨_, hquestion⟩ := h.expect_question
  simp only [phrase, conditional, operand_empty _ _ _ _ _ _ h.noAccess hnext, hquestion]

/-- As many accesses are read as there are levels for them.

**Proof sketch.** Induction on the number of accesses. Each takes one turn, and its position is read one
level deeper. -/
lemma accesses_repeated (levels k pos : Nat) (e : Expr) (hrest : NoAccess rest) :
    g.accesses (g.phrase (levels + 1)) k e
        (placed pos (repeated k [.leftBracket, .leftBracket, .rightBracket, .rightBracket]) ++
          rest) =
      .ok (indexed k e, rest) := by
  induction k generalizing e pos with
  | zero => exact accesses_of_noAccess hrest 0 e
  | succ k ih =>
    have hinside (more : List Lexeme) := phrase_expression_empty (g := g) levels (pos + 1)
      (pos + 2) (pos + 2) (pos + 3)
      (.cons (by decide : Symbol.rightBracket ∈ closers) (pos + 3) (pos + 4) more)
    rw [repeated_succ, placed_append, List.append_assoc, indexed, ← ih (pos + 4)]
    simp only [placed, List.cons_append, List.nil_append]
    rw [accesses]
    simp only [hinside, expect_self]
    rfl

/-- As many operators are read as there are levels for them.

**Proof sketch.** Induction on the number of operators. Each takes one turn, and its right operand is
read one level deeper and ends in front of the next operator. -/
lemma operators_repeated (levels k pos : Nat) (e : Expr) (hrest : NoAccess rest)
    (hnext : nextLevel? rest = none) :
    g.operators (g.phrase (levels + 1)) 0 k e
        (placed pos (repeated k [.plus, .leftBracket, .rightBracket]) ++ rest) =
      .ok (added k e, rest) := by
  induction k generalizing e pos with
  | zero =>
    refine operators_of_nextLevel (fun j hj => ?_) 0 e
    have hj : nextLevel? rest = some j := hj
    rw [hnext] at hj
    cases hj
  | succ k ih =>
    -- Behind every operand comes another `+`, or what comes behind the last one.
    have hbehind : NoAccess (placed (pos + 3) (repeated k [.plus, .leftBracket, .rightBracket]) ++
          rest) ∧
        ∀ j, nextLevel? (placed (pos + 3) (repeated k [.plus, .leftBracket, .rightBracket]) ++
          rest) = some j → j < 11 := by
      cases k with
      | zero =>
        refine ⟨hrest, fun j hj => ?_⟩
        have hj : nextLevel? rest = some j := hj
        rw [hnext] at hj
        cases hj
      | succ k =>
        refine ⟨trivial, fun j hj => ?_⟩
        cases hj
        decide
    have hright (a b c d : Nat) := operand_empty (g := g) (g.phrase levels) levels a b c d
      hbehind.1 hbehind.2
    have hphrase (us : List Lexeme) : g.phrase (levels + 1) (.operand 11) us =
      g.operand (g.phrase levels) levels 11 us := rfl
    rw [repeated_succ, placed_append, List.append_assoc, added, ← ih (pos + 3)]
    simp only [placed, List.cons_append, List.nil_append]
    rw [operators]
    simp only [Symbol.level?, Symbol.rightLevel, reduceCtorEq, if_false, Nat.not_lt_zero,
      List.length_cons, List.length_nil, Nat.reduceAdd, hphrase, hright, combine, Symbol.binary?]

/-- The symbols of a tower are read as its expression.

**Proof sketch.** Induction on the tower. With `n + 1` levels inside, there is room for the tower
below in brackets, for `n + 1` accesses, for `n + 1` operators and for two alternatives. -/
lemma phrase_tower (g : Grammar) (n pos : Nat) (rest : List Lexeme) (h : Closed rest) :
    g.phrase (n + 1) .expression (placed pos (tower n) ++ rest) = .ok (towerExpr n, rest) := by
  induction n generalizing pos rest with
  | zero => exact phrase_expression_empty 0 _ _ _ _ h
  | succ n ih =>
    rw [tower, placed, List.cons_append, placed_append, List.append_assoc, placed,
      List.cons_append, placed_append, List.append_assoc, placed_append, List.append_assoc]
    have hitems (fuel a : Nat) (tail : List Lexeme) :
        items .rightBracket (g.phrase (n + 1) .expression) fuel
            (placed (pos + 1) (tower n) ++ ⟨.symbol .rightBracket, a, a + 1⟩ :: tail) =
          .ok ([towerExpr n], tail) := by
      have hopen : ∃ err, expect .rightBracket (placed (pos + 1) (tower n) ++
          ⟨.symbol .rightBracket, a, a + 1⟩ :: tail) = .error err := by
        cases n <;> exact expect_of_ne (by simp)
      exact items_last hopen (ih _ _ (.cons (by decide) a (a + 1) tail)) (expect_of_ne (by simp))
        (expect_self _ a (a + 1)) fuel
    -- Behind the inner list there are accesses, then operators, and then the two branches.
    have haccesses (a b : Nat) (e : Expr) (tail : List Lexeme) :=
      accesses_repeated (g := g) n (n + 1) a e
        (show NoAccess (placed b (repeated (n + 1) [.plus, .leftBracket, .rightBracket]) ++ tail)
          from trivial)
    have hoperators (a b : Nat) (e : Expr) (tail : List Lexeme) :=
      operators_repeated (g := g) n (n + 1) a e
        (show NoAccess (⟨.symbol .question, b, b + 1⟩ :: tail) from trivial) rfl
    have halternative (a b c d u v : Nat) (tail : List Lexeme) :=
      phrase_expression_empty (g := g) n a b c d
        (.cons (by decide : Symbol.colon ∈ closers) u v tail)
    have hlast (a b c d : Nat) := phrase_expression_empty (g := g) n a b c d h
    change g.conditional (g.phrase (n + 1)) (n + 1) _ = _
    simp only [placed, List.cons_append, List.nil_append, conditional, operand, signed,
      Symbol.unary?, accessed, primary, hitems, haccesses, hoperators, expect_self, halternative,
      hlast, towerExpr]

/-! ## How they are written -/

/-- The characters of symbols. -/
def written (ss : List Symbol) : List Char :=
  ss.flatMap fun s => s.text.toList

/-- Symbols that can stand side by side without blanks: what comes behind a `?` is a bracket. -/
inductive Plain : List Symbol → Prop
  | nil : Plain []
  | cons {s : Symbol} {ss : List Symbol}
      (hs : s ∈ [.leftBracket, .rightBracket, .plus, .colon]) (h : Plain ss) : Plain (s :: ss)
  | question {ss : List Symbol} (h : Plain ss) : Plain (.question :: .leftBracket :: ss)

/-- Plain symbols behind plain symbols are plain. -/
lemma Plain.append {ss us : List Symbol} (h : Plain ss) (h' : Plain us) : Plain (ss ++ us) := by
  induction h with
  | nil => exact h'
  | cons hs _ ih => exact ih.cons hs
  | question _ ih => exact ih.question

/-- Plain symbols again and again are plain. -/
lemma Plain.repeated {ss : List Symbol} (h : Plain ss) (k : Nat) : Plain (repeated k ss) := by
  induction k with
  | zero => exact .nil
  | succ k ih =>
    rw [repeated_succ]
    exact h.append ih

/-- The symbols of a tower are plain.

**Proof sketch.** Induction on the tower. It is put together from brackets, sums and one choice, whose
question mark is followed by a bracket. -/
lemma plain_tower (n : Nat) : Plain (tower n) := by
  have hopen {ss : List Symbol} (h : Plain ss) : Plain (.leftBracket :: ss) :=
    .cons (by decide) h
  have hclose {ss : List Symbol} (h : Plain ss) : Plain (.rightBracket :: ss) :=
    .cons (by decide) h
  have hempty {ss : List Symbol} (h : Plain ss) : Plain (.leftBracket :: .rightBracket :: ss) :=
    hopen (hclose h)
  induction n with
  | zero => exact hempty .nil
  | succ n ih =>
    have hindex : Plain [.leftBracket, .leftBracket, .rightBracket, .rightBracket] :=
      hopen (hempty (hclose .nil))
    have hadd : Plain [.plus, .leftBracket, .rightBracket] := .cons (by decide) (hempty .nil)
    have hlast : Plain
        [.question, .leftBracket, .rightBracket, .colon, .leftBracket, .rightBracket] :=
      .question (hclose (.cons (by decide) (hempty .nil)))
    exact hopen (ih.append (hclose ((hindex.repeated (n + 1)).append
      ((hadd.repeated (n + 1)).append hlast))))

/-- One symbol of one character.

**Proof sketch.** No blank is skipped, so the symbol is scanned, and the rest is read from behind it. -/
lemma ofCharsFrom_symbol {s : Symbol} {c : Char} {cs : List Char} {lexemes : List Lexeme}
    {pos last : Nat} (hblank : Text.isBlank c = false)
    (hscan : Lexer.scan pos c cs = .ok (.symbol s, pos + 1, cs))
    (h : Lexeme.ofCharsFrom (pos + 1) cs = .ok (lexemes, last)) :
    Lexeme.ofCharsFrom pos (c :: cs) = .ok (⟨.symbol s, pos, pos + 1⟩ :: lexemes, last) := by
  rw [Lexeme.ofCharsFrom]
  simp only [hblank, Bool.false_eq_true, if_false]
  split
  · next he => rw [hscan] at he; cases he
  · next he =>
    rw [hscan] at he
    cases he
    simp only [h]

/-- Plain symbols are told apart.

**Proof sketch.** Induction on the symbols. A plain symbol is scanned alone, whatever follows, and a
question mark is because no symbol of two characters ends with a bracket. -/
lemma Plain.ofCharsFrom {ss : List Symbol} (h : Plain ss) (pos : Nat) :
    Lexeme.ofCharsFrom pos (written ss) = .ok (placed pos ss, pos + ss.length) := by
  induction h generalizing pos with
  | nil => rw [written, List.flatMap_nil, Lexeme.ofCharsFrom]; rfl
  | @cons s ss hs h ih =>
    rw [List.length_cons, Nat.add_comm ss.length 1, ← Nat.add_assoc, placed]
    simp only [List.mem_cons, List.not_mem_nil, or_false] at hs
    rcases hs with rfl | rfl | rfl | rfl <;>
      exact ofCharsFrom_symbol (by decide) rfl (ih (pos + 1))
  | @question ss h ih =>
    have hbracket : Lexeme.ofCharsFrom (pos + 1) (written (.leftBracket :: ss)) =
        .ok (placed (pos + 1) (.leftBracket :: ss), pos + 1 + 1 + ss.length) :=
      ofCharsFrom_symbol (by decide) rfl (ih (pos + 1 + 1))
    have hall : Lexeme.ofCharsFrom pos (written (.question :: .leftBracket :: ss)) =
        .ok (placed pos (.question :: .leftBracket :: ss), pos + 1 + 1 + ss.length) :=
      ofCharsFrom_symbol (by decide) rfl hbracket
    rw [hall, List.length_cons, List.length_cons]
    congr 2
    omega

/-- The source text of the tower for the bound `n + 1`. -/
def towerText (n : Nat) : String :=
  String.ofList (written (tower n))

/-- The text of a tower is split into its symbols. -/
lemma ofChars_tower (n : Nat) :
    Lexeme.ofChars (towerText n).toList = .ok (placed 0 (tower n), (tower n).length) := by
  rw [towerText, String.toList_ofList, Lexeme.ofChars, (plain_tower n).ofCharsFrom, Nat.zero_add]

/-- The source text of a tower is read as its expression.

**Proof sketch.** The phrase is read from the symbols (`phrase_tower`), and nothing is left behind it. -/
lemma parse_tower (resolve : String → Option Definition) (compile : String → Option Pattern) (n : Nat) :
    Grammar.parse resolve compile (n + 1) (towerText n) = .ok (towerExpr n) := by
  have hread := phrase_tower ⟨resolve, compile, n + 1, (tower n).length⟩ n 0 [] .nil
  have hne : placed 0 (tower n) ≠ [] := by
    cases n <;> exact List.cons_ne_nil _ _
  rw [List.append_nil] at hread
  rw [Grammar.parse_eq (ofChars_tower n)]
  exact expression_of_phrase hne hread

/-- **An expression that is read under a bound `l` on nesting is lower than `l * (l + 1)`.** For
every bound but `0` there is a source text whose expression is only one lower. So the bound is one
on the height only as long as it is at most `1`.

**Proof sketch.** The first part is an induction on the levels, the second are the towers. For a
bound of at least `2` the tower is higher than the bound. -/
theorem greatest_height (resolve : String → Option Definition)
    (compile : String → Option Pattern) :
    (∀ limit source e, Grammar.parse resolve compile limit source = .ok e →
      e.height + 1 ≤ limit * (limit + 1)) ∧
    (∀ limit, 0 < limit → ∃ source e, Grammar.parse resolve compile limit source = .ok e ∧
      e.height + 1 = limit * (limit + 1)) ∧
    ∀ limit, (∀ source e, Grammar.parse resolve compile limit source = .ok e → e.height ≤ limit) ↔
      limit ≤ 1 := by
  refine ⟨fun limit source e h => height_lt_of_parse h, fun limit hlimit => ?_,
    fun limit => ⟨fun h => ?_, fun hlimit source e h => ?_⟩⟩
  · obtain ⟨n, rfl⟩ : ∃ n, limit = n + 1 := ⟨limit - 1, by omega⟩
    exact ⟨towerText n, towerExpr n, parse_tower resolve compile n, height_towerExpr n⟩
  · by_contra hlimit
    obtain ⟨n, rfl⟩ : ∃ n, limit = n + 1 + 1 := ⟨limit - 2, by omega⟩
    have hle := h _ _ (parse_tower resolve compile (n + 1))
    have heq := height_towerExpr (n + 1)
    have hsquare : (n + 1 + 1) * (n + 1 + 2) = n * n + 5 * n + 6 := by ring
    omega
  · have hle := height_lt_of_parse h
    obtain rfl | rfl : limit = 0 ∨ limit = 1 := by omega
    · omega
    · omega

/-- Under the usual bound, `128`, expressions get up to `16511` high. -/
theorem greatest_height_usual :
    (∀ source e,
      Grammar.parse (fun _ => none) (fun _ => none) ({} : Options).maxDepth source = .ok e →
        e.height ≤ 16511) ∧
    ∃ source e,
      Grammar.parse (fun _ => none) (fun _ => none) ({} : Options).maxDepth source = .ok e ∧
        e.height = 16511 := by
  obtain ⟨hbound, hreached, -⟩ := greatest_height (fun _ => none) fun _ => none
  refine ⟨fun source e h => Nat.le_of_succ_le_succ (hbound 128 source e h), ?_⟩
  obtain ⟨source, e, h, heq⟩ := hreached 128 (by decide)
  exact ⟨source, e, h, Nat.succ.inj heq⟩

/-- The chain of accesses in `[[x]].a.b` starts anew, however high the operand is that it is behind.

**Proof sketch.** The text is read by evaluation, and the height of the result is computed. -/
theorem height_of_accesses_behind_arrays :
    ∃ e, Grammar.parse (fun _ => none) (fun _ => none) 3 "[[x]].a.b" = .ok e ∧ 3 < e.height := by
  have ht : Lexeme.ofChars "[[x]].a.b".toList = .ok ([⟨.symbol .leftBracket, 0, 1⟩,
      ⟨.symbol .leftBracket, 1, 2⟩, ⟨.identifier "x", 2, 3⟩, ⟨.symbol .rightBracket, 3, 4⟩,
      ⟨.symbol .rightBracket, 4, 5⟩, ⟨.symbol .dot, 5, 6⟩, ⟨.identifier "a", 6, 7⟩,
      ⟨.symbol .dot, 7, 8⟩, ⟨.identifier "b", 8, 9⟩], 9) := by
    decide +kernel
  have hparse : Grammar.parse (fun _ => none) (fun _ => none) 3 "[[x]].a.b" =
      .ok (.member (.member (.array [.array [.var "x"]]) "a") "b") := by
    rw [Grammar.parse_eq ht]
    rfl
  exact ⟨_, hparse, by decide⟩

end Grammar

end Formula
