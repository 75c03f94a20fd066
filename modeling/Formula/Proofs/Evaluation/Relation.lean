import Formula.Proofs.Evaluation.Run
import Formula.Proofs.Expr.Substitution

set_option autoImplicit false

/-!
# Related evaluations

Two expressions of the same shape are evaluated by the same steps. So a relation between evaluations
that goes from steps to what they are made up of relates the two as soon as it relates their
variables and their calls.

## Main definitions

* `Formula.Evaluation.Compatible` — relations that go from steps to what they are made up of.
* `Formula.Expr.Related` — what a relation has to say of a single node.

## Main results

* `Formula.Evaluation.Compatible.eval_substitute` — such a relation holds of whole expressions.
-/

namespace Formula

/-- Relations between evaluations that go from steps to what they are made up of. -/
structure Evaluation.Compatible (R : ∀ {α : Type}, Evaluation α → Evaluation α → Prop) : Prop where
  ofExcept : ∀ {α : Type} (r : Except EvalError α), R (Evaluation.ofExcept r) (Evaluation.ofExcept r)
  bind : ∀ {α β : Type} {m m' : Evaluation α} {k k' : α → Evaluation β}, R m m' →
    (∀ a, R (k a) (k' a)) → R (m >>= k) (m' >>= k')

/-- What a relation has to say of a node: of a variable, that it is related to what stands in its
place, and of a call, that it is related to itself for the same arguments. -/
def Expr.Related (R : ∀ {α : Type}, Evaluation α → Evaluation α → Prop) (s s' : Surroundings)
    (f : String → Expr) (node : Expr) : Prop :=
  match node with
  | .var name => R (eval s (.var name)) (eval s' (f name))
  | .call _ definition _ =>
    ∀ vs, R (do s.check; definition.call s vs) (do s'.check; definition.call s' vs)
  | _ => True

namespace Evaluation.Compatible

open Formula.Expr

variable {R : ∀ {α : Type}, Evaluation α → Evaluation α → Prop} {s s' : Surroundings}
  {f : String → Expr}

/-- A value alone is related to itself. -/
lemma pure (h : Compatible R) {α : Type} (a : α) : R (Pure.pure a) (Pure.pure a) :=
  h.ofExcept (.ok a)

mutual

/-- A relation between the nodes of an expression and what stands in their place relates the whole
expression to the one that stands in its place.

**Proof sketch.** One case for each kind of node, together with the lists and the entries. A node is a
sequence of its operands and of results, so it is related if the operands are; variables and calls are
related by assumption. -/
theorem eval_substitute (h : Compatible R) (hs : s.patterns = s'.patterns) (e : Expr)
    (hnodes : ∀ node ∈ e.nodes, node.Related R s s' f) :
    R (eval s e) (eval s' (e.substitute f)) := by
  -- `h.bind` puts a node together again from its operands, in the order in which they are evaluated.
  cases e with
  | literal v =>
    simp only [substitute, eval]
    exact h.pure v
  | array items =>
    simp only [nodes, List.forall_mem_cons] at hnodes
    simp only [substitute, eval]
    exact h.bind (h.evalAll_substituteAll hs items hnodes.2) fun _ => h.pure _
  | map entries =>
    simp only [nodes, List.forall_mem_cons] at hnodes
    simp only [substitute, eval]
    exact h.bind (h.evalEntries_substituteEntries hs entries hnodes.2) fun _ => h.pure _
  | var name =>
    simp only [nodes, List.forall_mem_cons] at hnodes
    exact hnodes.1
  | member target key =>
    simp only [nodes, List.forall_mem_cons] at hnodes
    simp only [substitute, eval]
    exact h.bind (h.eval_substitute hs target hnodes.2) fun _ => h.ofExcept _
  | index target position =>
    simp only [nodes, List.forall_mem_cons, List.forall_mem_append] at hnodes
    obtain ⟨-, htarget, hposition⟩ := hnodes
    simp only [substitute, eval]
    exact h.bind (h.eval_substitute hs target htarget) fun _ =>
      h.bind (h.eval_substitute hs position hposition) fun _ => h.ofExcept _
  | call name definition args =>
    simp only [nodes, List.forall_mem_cons] at hnodes
    obtain ⟨hcall, hargs⟩ := hnodes
    simp only [substitute, eval]
    exact h.bind (h.evalAll_substituteAll hs args hargs) hcall
  | unary op operand =>
    simp only [nodes, List.forall_mem_cons] at hnodes
    simp only [substitute, eval]
    exact h.bind (h.eval_substitute hs operand hnodes.2) fun _ => h.ofExcept _
  | binary op left right =>
    simp only [nodes, List.forall_mem_cons, List.forall_mem_append] at hnodes
    obtain ⟨-, hleft, hright⟩ := hnodes
    simp only [substitute, eval]
    exact h.bind (h.eval_substitute hs left hleft) fun _ =>
      h.bind (h.eval_substitute hs right hright) fun _ => h.ofExcept _
  | and left right =>
    simp only [nodes, List.forall_mem_cons, List.forall_mem_append] at hnodes
    obtain ⟨-, hleft, hright⟩ := hnodes
    simp only [substitute, eval]
    refine h.bind (h.eval_substitute hs left hleft) fun v => ?_
    split
    · exact h.pure _
    · exact h.bind (h.eval_substitute hs right hright) fun _ => h.pure _
  | or left right =>
    simp only [nodes, List.forall_mem_cons, List.forall_mem_append] at hnodes
    obtain ⟨-, hleft, hright⟩ := hnodes
    simp only [substitute, eval]
    refine h.bind (h.eval_substitute hs left hleft) fun v => ?_
    split
    · exact h.bind (h.eval_substitute hs right hright) fun _ => h.pure _
    · exact h.pure _
  | coalesce left right =>
    simp only [nodes, List.forall_mem_cons, List.forall_mem_append] at hnodes
    obtain ⟨-, hleft, hright⟩ := hnodes
    simp only [substitute, eval]
    refine h.bind (h.eval_substitute hs left hleft) fun v => ?_
    split
    · exact h.eval_substitute hs right hright
    · exact h.pure _
  | conditional test positive negative =>
    simp only [nodes, List.forall_mem_cons, List.forall_mem_append] at hnodes
    obtain ⟨-, htest, hpositive, hnegative⟩ := hnodes
    simp only [substitute, eval]
    refine h.bind (h.eval_substitute hs test htest) fun v => ?_
    split
    · exact h.eval_substitute hs negative hnegative
    · exact h.eval_substitute hs positive hpositive
  | matchesLiteral negated subject text pattern =>
    simp only [nodes, List.forall_mem_cons] at hnodes
    simp only [substitute, eval, hs]
    exact h.bind (h.eval_substitute hs subject hnodes.2) fun _ =>
      h.bind (h.ofExcept _) fun _ => h.pure _
  | matchesComputed negated subject pattern =>
    simp only [nodes, List.forall_mem_cons, List.forall_mem_append] at hnodes
    obtain ⟨-, hsubject, hpattern⟩ := hnodes
    simp only [substitute, eval, hs]
    exact h.bind (h.eval_substitute hs subject hsubject) fun _ =>
      h.bind (h.ofExcept _) fun _ => h.bind (h.eval_substitute hs pattern hpattern) fun _ => h.ofExcept _

/-- The same for lists of expressions. -/
theorem evalAll_substituteAll (h : Compatible R) (hs : s.patterns = s'.patterns) (es : List Expr)
    (hnodes : ∀ node ∈ nodesAll es, node.Related R s s' f) :
    R (evalAll s es) (evalAll s' (substituteAll f es)) := by
  cases es with
  | nil => exact h.pure []
  | cons e rest =>
    simp only [nodesAll, List.forall_mem_append] at hnodes
    simp only [substituteAll, evalAll]
    exact h.bind (h.eval_substitute hs e hnodes.1) fun _ =>
      h.bind (h.evalAll_substituteAll hs rest hnodes.2) fun _ => h.pure _

/-- The same for entries. -/
theorem evalEntries_substituteEntries (h : Compatible R) (hs : s.patterns = s'.patterns)
    (entries : List (String × Expr))
    (hnodes : ∀ node ∈ nodesEntries entries, node.Related R s s' f) :
    R (evalEntries s entries) (evalEntries s' (substituteEntries f entries)) := by
  cases entries with
  | nil => exact h.pure []
  | cons entry rest =>
    obtain ⟨key, e⟩ := entry
    simp only [nodesEntries, List.forall_mem_append] at hnodes
    simp only [substituteEntries, evalEntries]
    exact h.bind (h.eval_substitute hs e hnodes.1) fun _ =>
      h.bind (h.evalEntries_substituteEntries hs rest hnodes.2) fun _ => h.pure _

end

/-- The same for one expression in two surroundings. -/
lemma eval (h : Compatible R) (hs : s.patterns = s'.patterns) (e : Expr)
    (hnodes : ∀ node ∈ e.nodes, node.Related R s s' .var) : R (eval s e) (eval s' e) := by
  have hsubstitute := h.eval_substitute hs e hnodes
  rwa [e.substitute_var] at hsubstitute

end Evaluation.Compatible

end Formula
