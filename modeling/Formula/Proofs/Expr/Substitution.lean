import Formula.Expr.Basic
import Mathlib.Tactic.Lemma

set_option autoImplicit false

/-!
# Nodes of expressions and substitution

## Main definitions

* `Formula.Expr.nodes` — an expression and all expressions within it.
* `Formula.Expr.substitute` — an expression with other expressions in place of its variables.
* `Formula.Expr.instantiate` — an expression with a value in place of one variable.

## Main results

* `Formula.Expr.substitute_var` — variables in place of themselves change nothing.
-/

namespace Formula.Expr

/-! ## Nodes -/

mutual

/-- The expression and all expressions within it, however deep. -/
def nodes : Expr → List Expr
  | .literal v => [.literal v]
  | .array items => .array items :: nodesAll items
  | .map entries => .map entries :: nodesEntries entries
  | .var name => [.var name]
  | .member target key => .member target key :: target.nodes
  | .index target position => .index target position :: (target.nodes ++ position.nodes)
  | .call name definition args => .call name definition args :: nodesAll args
  | .unary op operand => .unary op operand :: operand.nodes
  | .binary op left right => .binary op left right :: (left.nodes ++ right.nodes)
  | .and left right => .and left right :: (left.nodes ++ right.nodes)
  | .or left right => .or left right :: (left.nodes ++ right.nodes)
  | .coalesce left right => .coalesce left right :: (left.nodes ++ right.nodes)
  | .conditional test positive negative =>
    .conditional test positive negative :: (test.nodes ++ (positive.nodes ++ negative.nodes))
  | .matchesLiteral negated subject text pattern =>
    .matchesLiteral negated subject text pattern :: subject.nodes
  | .matchesComputed negated subject pattern =>
    .matchesComputed negated subject pattern :: (subject.nodes ++ pattern.nodes)

/-- The nodes of expressions. -/
def nodesAll : List Expr → List Expr
  | [] => []
  | e :: rest => e.nodes ++ nodesAll rest

/-- The nodes of the expressions of entries. -/
def nodesEntries : List (String × Expr) → List Expr
  | [] => []
  | (_, e) :: rest => e.nodes ++ nodesEntries rest

end

/-- A node of expressions is a node of one of them. -/
lemma mem_nodesAll {node : Expr} {es : List Expr} :
    node ∈ nodesAll es ↔ ∃ e ∈ es, node ∈ e.nodes := by
  induction es with
  | nil => simp [nodesAll]
  | cons e rest ih => simp [nodesAll, ih]

/-- A node of entries is a node of the expression of one of them. -/
lemma mem_nodesEntries {node : Expr} {entries : List (String × Expr)} :
    node ∈ nodesEntries entries ↔ ∃ x ∈ entries, node ∈ x.2.nodes := by
  induction entries with
  | nil => simp [nodesEntries]
  | cons entry rest ih => simp [nodesEntries, ih]

/-! ## Substitution -/

mutual

/-- The expression with other expressions in place of its variables. -/
def substitute (f : String → Expr) : Expr → Expr
  | .literal v => .literal v
  | .array items => .array (substituteAll f items)
  | .map entries => .map (substituteEntries f entries)
  | .var name => f name
  | .member target key => .member (target.substitute f) key
  | .index target position => .index (target.substitute f) (position.substitute f)
  | .call name definition args => .call name definition (substituteAll f args)
  | .unary op operand => .unary op (operand.substitute f)
  | .binary op left right => .binary op (left.substitute f) (right.substitute f)
  | .and left right => .and (left.substitute f) (right.substitute f)
  | .or left right => .or (left.substitute f) (right.substitute f)
  | .coalesce left right => .coalesce (left.substitute f) (right.substitute f)
  | .conditional test positive negative =>
    .conditional (test.substitute f) (positive.substitute f) (negative.substitute f)
  | .matchesLiteral negated subject text pattern =>
    .matchesLiteral negated (subject.substitute f) text pattern
  | .matchesComputed negated subject pattern =>
    .matchesComputed negated (subject.substitute f) (pattern.substitute f)

/-- Expressions with other expressions in place of their variables. -/
def substituteAll (f : String → Expr) : List Expr → List Expr
  | [] => []
  | e :: rest => e.substitute f :: substituteAll f rest

/-- Entries with other expressions in place of their variables. -/
def substituteEntries (f : String → Expr) : List (String × Expr) → List (String × Expr)
  | [] => []
  | (key, e) :: rest => (key, e.substitute f) :: substituteEntries f rest

end

mutual

/-- Variables in place of themselves change nothing. -/
lemma substitute_var (e : Expr) : e.substitute .var = e := by
  cases e <;> simp only [substitute, substitute_var, substituteAll_var, substituteEntries_var]

/-- Expressions with their variables for themselves are the same. -/
lemma substituteAll_var (es : List Expr) : substituteAll .var es = es := by
  cases es with
  | nil => rfl
  | cons e rest => simp only [substituteAll, substitute_var, substituteAll_var]

/-- Entries with their variables for themselves are the same. -/
lemma substituteEntries_var (entries : List (String × Expr)) :
    substituteEntries .var entries = entries := by
  cases entries with
  | nil => rfl
  | cons entry rest => simp only [substituteEntries, substitute_var, substituteEntries_var]

end

/-- The expression with a value in place of a variable, wherever it occurs. -/
def instantiate (name : String) (v : Value) (e : Expr) : Expr :=
  e.substitute fun other => if other = name then .literal v else .var other

end Formula.Expr
