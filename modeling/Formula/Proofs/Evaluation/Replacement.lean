import Formula.Proofs.Evaluation.Run
import Formula.Proofs.Expr.Substitution

set_option autoImplicit false

/-!
# Other functions in an expression

An expression with other functions in place of those it calls has the same value if none of its
calls can tell: a call is made with as many values as it has arguments, and behind a look at the
context.

## Main definitions

* `Formula.Expr.replace` — an expression with other functions.
* `Formula.Expr.CalledAlike` — a node, if it is a call, does not tell the functions apart.

## Main results

* `Formula.Expr.length_of_evalAll` — there are as many values as expressions.
* `Formula.Expr.eval_replace_of_calledAlike` — the value is the same if no call can tell.
-/

namespace Formula

namespace Expr

mutual

/-- An expression with other functions in place of those it calls. -/
def replace (f : Definition → Definition) : Expr → Expr
  | .literal v => .literal v
  | .array items => .array (replaceAll f items)
  | .map entries => .map (replaceEntries f entries)
  | .var name => .var name
  | .member target key => .member (replace f target) key
  | .index target position => .index (replace f target) (replace f position)
  | .call name definition args => .call name (f definition) (replaceAll f args)
  | .unary op operand => .unary op (replace f operand)
  | .binary op left right => .binary op (replace f left) (replace f right)
  | .and left right => .and (replace f left) (replace f right)
  | .or left right => .or (replace f left) (replace f right)
  | .coalesce left right => .coalesce (replace f left) (replace f right)
  | .conditional test positive negative =>
    .conditional (replace f test) (replace f positive) (replace f negative)
  | .matchesLiteral negated subject text pattern =>
    .matchesLiteral negated (replace f subject) text pattern
  | .matchesComputed negated subject pattern =>
    .matchesComputed negated (replace f subject) (replace f pattern)

/-- Expressions with other functions. -/
def replaceAll (f : Definition → Definition) : List Expr → List Expr
  | [] => []
  | e :: rest => replace f e :: replaceAll f rest

/-- Entries with other functions. -/
def replaceEntries (f : Definition → Definition) : List (String × Expr) → List (String × Expr)
  | [] => []
  | (key, e) :: rest => (key, replace f e) :: replaceEntries f rest

end

/-! ## The values of arguments -/

variable {s : Surroundings} {f : Definition → Definition}

/-- There are as many values as expressions.

**Proof sketch.** Induction on the expressions. -/
lemma length_of_evalAll {es : List Expr} {vs : List Value} {state final : State}
    (h : (evalAll s es).run state = (.ok vs, final)) : vs.length = es.length := by
  induction es generalizing vs state final with
  | nil =>
    cases h
    rfl
  | cons e rest ih =>
    obtain ⟨v, _, _, h⟩ := Evaluation.exists_of_run_bind h
    obtain ⟨ws, _, hrest, h⟩ := Evaluation.exists_of_run_bind h
    cases h
    rw [List.length_cons, List.length_cons, ih hrest]

/-! ## The same value -/

/-- What is asked of a node: if it is a call, its function and the one in its place are called
alike, with as many values as there are arguments and behind a look at the context. -/
def CalledAlike (s : Surroundings) (f : Definition → Definition) (node : Expr) : Prop :=
  match node with
  | .call _ definition args => ∀ vs, vs.length = args.length →
    (do s.check; (f definition).call s vs : Evaluation Value) =
      (do s.check; definition.call s vs)
  | _ => True

mutual

/-- If no call can tell its function from the one in its place, the value is the same.

**Proof sketch.** One case for each kind of node, together with the lists and the entries. A call has as
many values as arguments when its function is called. -/
theorem eval_replace_of_calledAlike (e : Expr) (h : ∀ node ∈ e.nodes, node.CalledAlike s f) :
    eval s (e.replace f) = eval s e := by
  cases e with
  | literal | var => rfl
  | array items =>
    simp only [nodes, List.forall_mem_cons] at h
    simp only [replace, eval, evalAll_replaceAll_of_calledAlike items h.2]
  | map entries =>
    simp only [nodes, List.forall_mem_cons] at h
    simp only [replace, eval, evalEntries_replaceEntries_of_calledAlike entries h.2]
  | member target | unary _ target | matchesLiteral _ target =>
    simp only [nodes, List.forall_mem_cons] at h
    simp only [replace, eval, eval_replace_of_calledAlike target h.2]
  | index left right | binary _ left right | and left right | or left right | coalesce left right
  | matchesComputed _ left right =>
    simp only [nodes, List.forall_mem_cons, List.forall_mem_append] at h
    simp only [replace, eval, eval_replace_of_calledAlike left h.2.1,
      eval_replace_of_calledAlike right h.2.2]
  | conditional test positive negative =>
    simp only [nodes, List.forall_mem_cons, List.forall_mem_append] at h
    simp only [replace, eval, eval_replace_of_calledAlike test h.2.1,
      eval_replace_of_calledAlike positive h.2.2.1, eval_replace_of_calledAlike negative h.2.2.2]
  | call name definition args =>
    simp only [nodes, List.forall_mem_cons] at h
    simp only [replace, eval, evalAll_replaceAll_of_calledAlike args h.2]
    exact Evaluation.bind_congr_of_run fun vs _ _ hvs => h.1 vs (length_of_evalAll hvs)

/-- The same for lists of expressions. -/
theorem evalAll_replaceAll_of_calledAlike (es : List Expr)
    (h : ∀ node ∈ nodesAll es, node.CalledAlike s f) :
    evalAll s (replaceAll f es) = evalAll s es := by
  cases es with
  | nil => rfl
  | cons e rest =>
    simp only [nodesAll, List.forall_mem_append] at h
    simp only [replaceAll, evalAll, eval_replace_of_calledAlike e h.1,
      evalAll_replaceAll_of_calledAlike rest h.2]

/-- The same for entries. -/
theorem evalEntries_replaceEntries_of_calledAlike (entries : List (String × Expr))
    (h : ∀ node ∈ nodesEntries entries, node.CalledAlike s f) :
    evalEntries s (replaceEntries f entries) = evalEntries s entries := by
  cases entries with
  | nil => rfl
  | cons entry rest =>
    obtain ⟨key, e⟩ := entry
    simp only [nodesEntries, List.forall_mem_append] at h
    simp only [replaceEntries, evalEntries, eval_replace_of_calledAlike e h.1,
      evalEntries_replaceEntries_of_calledAlike rest h.2]

end

end Expr

end Formula
