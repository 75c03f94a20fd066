import Formula.Parser
import Formula.Proofs.Grammar.Run
import Mathlib.Tactic.Ring

set_option autoImplicit false

/-!
# How high expressions get

The bound on nesting counts levels of the grammar, and chains of operators and of accesses one by
one. A chain starts anew from an operand that may be as high as the levels inside it allow, so an
expression is at most quadratically higher than the bound.

## Main definitions

* `Formula.Expr.height` — the height of an expression.

## Main results

* `Formula.Grammar.phrase_height` — what is read with `l` levels is lower than `l * (l + 1)`.
* `Formula.Grammar.height_lt_of_parse` — so is what is read from a source text.
-/

namespace Formula

/-! ## Heights -/

namespace Expr

mutual

/-- The height of an expression: one more than that of its highest part. -/
def height : Expr → Nat
  | .literal _ | .var _ => 1
  | .array items => 1 + heightAll items
  | .map entries => 1 + heightEntries entries
  | .call _ _ args => 1 + heightAll args
  | .member target _ => 1 + target.height
  | .index target position => 1 + max target.height position.height
  | .unary _ operand => 1 + operand.height
  | .binary _ left right => 1 + max left.height right.height
  | .and left right => 1 + max left.height right.height
  | .or left right => 1 + max left.height right.height
  | .coalesce left right => 1 + max left.height right.height
  | .conditional test positive negative =>
    1 + max test.height (max positive.height negative.height)
  | .matchesLiteral _ subject _ _ => 1 + subject.height
  | .matchesComputed _ subject pattern => 1 + max subject.height pattern.height

/-- The greatest height of expressions. -/
def heightAll : List Expr → Nat
  | [] => 0
  | e :: rest => max e.height (heightAll rest)

/-- The greatest height of the expressions of entries. -/
def heightEntries : List (String × Expr) → Nat
  | [] => 0
  | (_, e) :: rest => max e.height (heightEntries rest)

end

attribute [local simp] height heightAll heightEntries

/-- An expression has a height. -/
lemma height_pos (e : Expr) : 0 < e.height := by
  cases e <;> simp

/-- The height of entries is that of their expressions. -/
lemma heightEntries_eq (entries : List (String × Expr)) :
    heightEntries entries = heightAll (entries.map Prod.snd) := by
  induction entries with
  | nil => rfl
  | cons x rest ih => simp [ih]

/-- Of expressions that are lower than `b`, a list is not higher than `b`, or it is empty.

**Proof sketch.** Induction on the expressions. -/
lemma heightAll_succ_le {es : List Expr} {b : Nat} (h : ∀ e ∈ es, e.height + 1 ≤ b) :
    1 + heightAll es ≤ max 1 b := by
  induction es with
  | nil => simp
  | cons e rest ih =>
    obtain ⟨he, hrest⟩ := List.forall_mem_cons.mp h
    have := ih hrest
    simp only [heightAll]
    omega

/-- A sign makes an operand at most one higher. -/
lemma height_signed_le (op : UnaryOperator) (e : Expr) :
    (Expr.signed op e).height ≤ 1 + e.height := by
  unfold Expr.signed
  split
  · simp only [height]; omega
  · simp only [height]; omega

end Expr

namespace Grammar

open Formula.Expr

variable {g : Grammar} {inner : Inner} {tokens rest : List Lexeme} {e e' : Expr} {b : Nat}

/-- An operator with its operands is at most one higher than these. -/
lemma height_combine_le {s : Symbol} {pos : Nat} {l r : Expr} {k : Nat} (hs : s.level? = some k)
    (h : g.combine s pos l r = .ok e) : e.height ≤ 1 + max l.height r.height := by
  cases (combine_eq_ok_iff hs).mp h <;> simp only [height] <;> omega

/-! ## Bounds for the readers -/

section Bounds

variable (hb : ∀ p tokens e rest, inner p tokens = .ok (e, rest) → e.height + 1 ≤ b)

include hb

/-- An operand without operators and accesses is as high as what it contains allows.

**Proof sketch.** One case for each form. What stands in brackets is read one level deeper, so it is
lower than the bound. -/
lemma PrimaryRun.height_le (h : PrimaryRun g inner tokens e rest) : e.height ≤ max 1 b := by
  cases h with
  | literal | «variable» => simp only [height]; omega
  | call _ hargs _ =>
    refine heightAll_succ_le fun e he => ?_
    obtain ⟨ts, mid, h⟩ := hargs.exists_item e he
    exact hb _ _ _ _ h
  | array hes =>
    refine heightAll_succ_le fun e he => ?_
    obtain ⟨ts, mid, h⟩ := hes.exists_item e he
    exact hb _ _ _ _ h
  | map hentries =>
    simp only [height, heightEntries_eq]
    refine heightAll_succ_le fun e he => ?_
    obtain ⟨⟨key, _⟩, hx, rfl⟩ := List.mem_map.mp he
    obtain ⟨ts, mid, h⟩ := hentries.exists_item _ hx
    obtain ⟨_, _, _, _, _, -, -, -, he⟩ := entry_ok h
    exact hb _ _ _ _ he
  | parentheses he => have := hb _ _ _ _ he; omega

/-- Each access adds one to the height of what it is behind.

**Proof sketch.** Induction on the run. An access is one higher than its target and than the position in
it, which is bounded by `b` like all that is read one level deeper. -/
lemma AccessesRun.height_le {left : Nat} (h : AccessesRun inner left e tokens e' rest) :
    e'.height ≤ max e.height b + left := by
  induction h with
  | stop => omega
  | member _ ih =>
    simp only [height] at ih
    omega
  | index hp _ _ ih =>
    have := hb _ _ _ _ hp
    simp only [height] at ih
    omega

/-- Each operator adds one to the height of what it is behind.

**Proof sketch.** Induction on the run, as for accesses. -/
lemma OperatorsRun.height_le {least left : Nat}
    (h : OperatorsRun g inner least left e tokens e' rest) :
    e'.height ≤ max e.height b + left := by
  induction h with
  | stop => omega
  | step hs _ hr he _ ih =>
    have := hb _ _ _ _ hr
    have := height_combine_le hs he
    omega

/-- The height of a signed operand is bounded by what is below it and by the number of its accesses.

**Proof sketch.** A prefix is one higher than its operand, which is read one level deeper. Otherwise
there is an operand with accesses. -/
lemma signed_height_le {levels : Nat} (h : g.signed inner levels tokens = .ok (e, rest)) :
    e.height ≤ max 1 b + levels := by
  obtain ⟨op, _, _, tail, operand, rfl, ho, rfl⟩ | ⟨e₀, mid, hp, ha⟩ := signed_ok h
  · have := hb _ _ _ _ ho
    have := height_signed_le op operand
    omega
  · have := hp.height_le hb
    have := ha.height_le hb
    omega

/-- Operators come on top of the accesses of the first operand. -/
lemma operand_height_le {levels least : Nat}
    (h : g.operand inner levels least tokens = .ok (e, rest)) :
    e.height ≤ max 1 b + 2 * levels := by
  obtain ⟨e₀, mid, hs, ho⟩ := operand_ok h
  have := signed_height_le hb hs
  have := ho.height_le hb
  omega

/-- Two alternatives are only there if a level is left for them.

**Proof sketch.** The condition is an operand, and the two branches are one level deeper. -/
lemma conditional_height_le {levels : Nat}
    (h : g.conditional inner levels tokens = .ok (e, rest)) :
    e.height + 1 ≤ b + 2 * levels + 2 := by
  obtain ⟨test, mid, ht, ⟨rfl, rfl⟩ | ⟨_, positive, _, _, negative, -, hp, -, hn, rfl⟩⟩ :=
    conditional_ok h
  · have := operand_height_le hb ht
    omega
  · have := operand_height_le hb ht
    have := hb _ _ _ _ hp
    have := hb _ _ _ _ hn
    have := height_pos positive
    simp only [height]
    omega

end Bounds

/-- What is read with `l` levels is lower than `l * (l + 1)`.

**Proof sketch.** Induction on the levels. With `l` levels inside, an operand without operators gets
as high as what is read inside, a chain of accesses and a chain of operators add `l` each, and two
alternatives add one. That makes `l * (l + 1) + 2 * l + 2 = (l + 1) * (l + 2)`. -/
lemma phrase_height (g : Grammar) (levels : Nat) (p : Phrase) (tokens : List Lexeme) (e : Expr)
    (rest : List Lexeme) (h : g.phrase levels p tokens = .ok (e, rest)) :
    e.height + 1 ≤ levels * (levels + 1) := by
  induction levels generalizing p tokens e rest with
  | zero => cases h
  | succ levels ih =>
    have hsquare : (levels + 1) * (levels + 1 + 1) = levels * (levels + 1) + 2 * levels + 2 := by
      ring
    rw [hsquare]
    cases p with
    | expression => exact conditional_height_le ih h
    | operand least =>
      have := operand_height_le ih h
      omega
    | signed =>
      have := signed_height_le ih h
      omega

/-- An expression that a source text stands for is lower than `limit * (limit + 1)`. -/
lemma height_lt_of_parse {resolve : String → Option Definition} {compile : String → Option Pattern}
    {limit : Nat} {source : String} (h : Grammar.parse resolve compile limit source = .ok e) :
    e.height + 1 ≤ limit * (limit + 1) := by
  obtain ⟨tokens, stop, -, h⟩ := exists_tokens_of_parse h
  exact phrase_height _ _ _ _ _ _ (expression_ok h)

end Grammar

end Formula
