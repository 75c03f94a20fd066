import Formula.Builtin.Basic
import Formula.Pattern.Meaning
import Formula.Proofs.Builtin.Looks
import Formula.Proofs.Evaluation.Relation
import Formula.Variables
import Mathlib.Control.Monad.Basic
import Mathlib.Tactic.Linarith

set_option autoImplicit false

/-!
# What an evaluation sees of its surroundings

As long as the context is live, an expression that calls nothing but the functions that come with
the language depends on what its own variables stand for, and on nothing else: neither on other
variables, nor on how variables are kept, nor on the context or the time it has left.

## Main definitions

* `Formula.Indistinct` — evaluations with the same result in any live surroundings of two kinds.
* `Formula.Definition.Indifferent` — functions that see nothing but their arguments.

## Main results

* `Formula.Builtin.indifferent` — the functions that come with the language see nothing else.
* `Formula.Compiled.eval_eq_of_scope_eq` — nor do expressions that call no other functions, but for
  what their variables stand for.
-/

namespace Formula

/-- Evaluations in two surroundings that cannot be told apart while both are live. They have one result
and cancel nothing. -/
def Indistinct (s s' : Surroundings) {α : Type} (m m' : Evaluation α) : Prop :=
  ∀ state state', s.Live state → s'.Live state' →
    ∃ r last last', (m.run state = (r, last) ∧ state.Later last) ∧
      m'.run state' = (r, last') ∧ state'.Later last'

namespace Indistinct

variable {α β : Type} {s s' : Surroundings}

/-- A result is the same anywhere. -/
lemma ofExcept (r : Except EvalError α) :
    Indistinct s s' (Evaluation.ofExcept r) (Evaluation.ofExcept r) :=
  fun state state' _ _ => ⟨r, state, state', ⟨Evaluation.run_ofExcept r state, .refl state⟩,
    Evaluation.run_ofExcept r state', .refl state'⟩

/-- As nothing is cancelled, what follows begins in live surroundings again.

**Proof sketch.** The states behind the first steps are later ones, where both surroundings are live
too. -/
lemma bind {m m' : Evaluation α} {k k' : α → Evaluation β} (hm : Indistinct s s' m m')
    (hk : ∀ a, Indistinct s s' (k a) (k' a)) : Indistinct s s' (m >>= k) (m' >>= k') := by
  intro state state' hlive hlive'
  obtain ⟨r, mid, mid', ⟨hr, hmid⟩, hr', hmid'⟩ := hm state state' hlive hlive'
  rw [Evaluation.run_bind, Evaluation.run_bind, hr, hr']
  cases r with
  | error e => exact ⟨.error e, mid, mid', ⟨rfl, hmid⟩, rfl, hmid'⟩
  | ok a =>
    obtain ⟨r, last, last', ⟨hr, hlast⟩, hr', hlast'⟩ :=
      hk a mid mid' (hlive.later hmid) (hlive'.later hmid')
    exact ⟨r, last, last', ⟨hr, hmid.trans hlast⟩, hr', hmid'.trans hlast'⟩

/-- What holds of the steps holds of what they are put together to. -/
lemma compatible (s s' : Surroundings) : Evaluation.Compatible (Indistinct s s') :=
  ⟨ofExcept, bind⟩

/-- Looks at two live contexts show the same. -/
lemma check (s s' : Surroundings) : Indistinct s s' s.check s'.check := by
  intro state state' hlive hlive'
  rw [s.run_check, s'.run_check, hlive.look_eq, hlive'.look_eq]
  exact ⟨.ok (), _, _, ⟨rfl, .looked state⟩, rfl, .looked state'⟩

/-- Neither of two live contexts ends an evaluation. -/
lemma checked {m m' : Evaluation α} (h : Indistinct s s' m m') :
    Indistinct s s' (do s.check; m) (do s'.check; m') :=
  (check s s').bind fun _ => h

end Indistinct

/-! ## Functions -/

namespace Definition

/-- A function that sees nothing but its arguments while the context is live. -/
def Indifferent (d : Definition) : Prop :=
  ∀ s s' vs, s.patterns = s'.patterns → Indistinct s s' (d.body s vs) (d.body s' vs)

/-- A plain function sees nothing but its arguments. -/
@[simp] lemma indifferent_plain (name : String) (arity : Arity)
    (f : List Value → Except EvalError Value) : (plain name arity f).Indifferent :=
  fun _ _ vs _ => .ofExcept (f vs)

/-- A function that uses the regular expressions uses the same ones in both surroundings. -/
@[simp] lemma indifferent_matching (name : String) (arity : Arity)
    (f : Pattern.Engine → List Value → Except EvalError Value) :
    (matching name arity f).Indifferent := by
  intro s s' vs hpatterns
  simp only [matching, hpatterns]
  exact .ofExcept _

/-- A function that looks at the context only sees that it is not done. -/
@[simp] lemma indifferent_watching (name : String) (arity : Arity) (f : List Value → Looking Value) :
    (watching name arity f).Indifferent := by
  intro s s' vs _ state state' hlive hlive'
  obtain ⟨last, hlast, hrun⟩ := (f vs).run_evaluation hlive
  obtain ⟨last', hlast', hrun'⟩ := (f vs).run_evaluation hlive'
  exact ⟨(f vs).result, last, last', ⟨hrun, hlast⟩, hrun', hlast'⟩

/-- Another name for a function does not let it see more. -/
@[simp] lemma indifferent_withAlias {d : Definition} {name : String} :
    (d.withAlias name).Indifferent ↔ d.Indifferent :=
  .rfl

/-- A call of such a function sees nothing but its arguments either. -/
lemma Indifferent.call {d : Definition} (h : d.Indifferent) {s s' : Surroundings}
    (hpatterns : s.patterns = s'.patterns) (vs : List Value) :
    Indistinct s s' (d.call s vs) (d.call s' vs) := by
  unfold Definition.call
  split
  · exact h s s' vs hpatterns
  · exact .ofExcept (.error _)

end Definition

/-- The functions that come with the language see nothing but their arguments. -/
lemma Builtin.indifferent : ∀ l ∈ libraries, ∀ d ∈ l.definitions, d.Indifferent := by
  simp [libraries, General.library, Texts.library, Documents.library, Numbers.library,
    Times.library, Lists.library, Maps.library]

/-! ## Expressions -/

/-- Expressions that call only functions that see nothing but their arguments cannot be told apart
where their variables stand for the same.

**Proof sketch.** Being indistinct is compatible with the evaluator, so only variables and calls have to
be looked at. -/
lemma Expr.indistinct_eval {s s' : Surroundings} {e : Expr} (hpatterns : s.patterns = s'.patterns)
    (hcalls : ∀ name d args, .call name d args ∈ e.nodes → d.Indifferent)
    (hscope : ∀ name, .var name ∈ e.nodes → s.scope name = s'.scope name) :
    Indistinct s s' (e.eval s) (e.eval s') := by
  refine (Indistinct.compatible s s').eval hpatterns e fun node hnode => ?_
  cases node with
  | var name =>
    have hlookup : s.lookup name = s'.lookup name := by
      simp only [Surroundings.lookup, hscope name hnode]
    simp only [Related, eval, hlookup]
    exact .ofExcept _
  | call name d args => exact fun vs => ((hcalls name d args hnode).call hpatterns vs).checked
  | _ => trivial

/-- **An evaluation sees only the variables of its expression.** If all functions that an expression
calls come with the language, and its variables stand for the same in two surroundings, whatever
they are kept in, then its evaluation in live contexts has the same result in both, value or
failure. It cancels nothing.

**Proof sketch.** A function that comes with the language only sees its arguments and that the
context is not done. As it cancels nothing, the next one sees the same. -/
theorem Compiled.eval_eq_of_scope_eq (c : Compiled) {s s' : Surroundings} {state state' : State}
    (hpatterns : s.patterns = s'.patterns)
    (hcalls : ∀ name d args, .call name d args ∈ c.root.nodes →
      ∃ l ∈ Builtin.libraries, d ∈ l.definitions)
    (hscope : ∀ name, .var name ∈ c.root.nodes → s.scope name = s'.scope name)
    (hlive : s.Live state) (hlive' : s'.Live state') :
    ∃ r last last', ((c.eval s).run state = (r, last) ∧ state.Later last) ∧
      (c.eval s').run state' = (r, last') ∧ state'.Later last' := by
  have hroot : Indistinct s s' (c.root.eval s) (c.root.eval s') := by
    refine Expr.indistinct_eval hpatterns (fun name d args hnode => ?_) hscope
    obtain ⟨l, hl, hd⟩ := hcalls name d args hnode
    exact Builtin.indifferent l hl d hd
  exact hroot.checked state state' hlive hlive'

/-- `count(x, y)` in a background context with the variables `x` and `y`, and in a context whose deadline
draws near from look to look, while another one is cancelled, with these variables and `z` in a hash
table. -/
theorem Compiled.eval_eq_of_scope_eq_count :
    ∃ c : Compiled,
      Grammar.parse Builtin.Lists.library.find? (fun _ => none) 9 "count(x, y)" = .ok c.root ∧
      ∃ r last last', ((c.eval ⟨⟨0, none⟩, fun _ => 0, .standard,
          Variables.get? [("x", .array [.null]), ("y", .null)]⟩).run {} = (r, last) ∧
            State.Later {} last) ∧
        (c.eval ⟨⟨0, some 9⟩, Nat.min 8, .standard, ((({} : Std.HashMap String Value).insert "z"
          .null).insert "y" .null).insert "x" (.array [.null]) |>.get?⟩).run ⟨⟨[1]⟩, 0⟩ = (r, last') ∧
            State.Later ⟨⟨[1]⟩, 0⟩ last' := by
  let count := Definition.watching "count" (.range 1 none) Builtin.Lists.count
  let c : Compiled := ⟨"count(x, y)", .call "count" count [.var "x", .var "y"]⟩
  have ht : Lexeme.ofChars "count(x, y)".toList = .ok ([⟨.identifier "count", 0, 5⟩,
      ⟨.symbol .leftParen, 5, 6⟩, ⟨.identifier "x", 6, 7⟩, ⟨.symbol .comma, 7, 8⟩,
      ⟨.identifier "y", 9, 10⟩, ⟨.symbol .rightParen, 10, 11⟩], 11) := by
    decide +kernel
  have hparse : Grammar.parse Builtin.Lists.library.find? (fun _ => none) 9 "count(x, y)" =
      .ok c.root := by
    rw [Grammar.parse_eq ht]
    rfl
  refine ⟨c, hparse, c.eval_eq_of_scope_eq rfl (fun name d args hnode => ?_) (fun name hnode => ?_)
    (fun _ _ => rfl) fun n _ => ?_⟩
  · obtain ⟨-, rfl, -⟩ : name = "count" ∧ d = count ∧ args = [.var "x", .var "y"] := by
      simpa [c, Expr.nodes, Expr.nodesAll] using hnode
    exact ⟨Builtin.Lists.library, by simp [Builtin.libraries], by
      simp [Builtin.Lists.library, count]⟩
  · have hname : name = "x" ∨ name = "y" := by
      simpa [c, Expr.nodes, Expr.nodesAll] using hnode
    rcases hname with rfl | rfl
    · simp [Variables.get?, Record.find?]
    · simp [Variables.get?, Record.find?, Std.HashMap.getElem_insert]
  · have hn : ¬ 9 ≤ Nat.min 8 n := Nat.not_le.mpr (Nat.lt_succ_of_le (Nat.min_le_left 8 n))
    exact if_neg hn

end Formula
