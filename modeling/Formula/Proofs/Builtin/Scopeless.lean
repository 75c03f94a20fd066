import Formula.Proofs.Builtin.Failures

set_option autoImplicit false

/-!
# The functions that come with the language look up no variables

No function that comes with the language fails because a variable stands for nothing. Each reads its
arguments, perhaps looks at the context, and fails with a complaint of its own.

## Main definitions

* `Formula.EvalError.Scopeless` — the failures that have nothing to do with variables.
* `Formula.Definition.Scopeless` — the functions that have no other failures.

## Main results

* `Formula.Builtin.scopeless` — the functions that come with the language are such functions.
-/

namespace Formula

/-- A failure other than that a variable stands for nothing. -/
def EvalError.Scopeless (e : EvalError) : Prop :=
  match e with
  | undefinedVariable _ => False
  | _ => True

open EvalError (Scopeless)

/-- What a function complains of itself has nothing to do with variables. -/
lemma EvalError.Own.scopeless {short : Prop} {e : EvalError} (h : e.Own short) : e.Scopeless := by
  cases e <;> first | exact h | trivial

/-- A failure of the function's own is not about a variable. -/
lemma FailsOnly.scopeless {α : Type} {r : Except EvalError α}
    (h : FailsOnly (EvalError.Own True) r) : FailsOnly Scopeless r :=
  h.mono fun _ => EvalError.Own.scopeless

/-! ## Steps -/

namespace Value

variable {v : Value} {operation : String}

/-- Reading a number does not fail because of a variable. -/
@[simp] lemma toNumber_scopeless : FailsOnly Scopeless (v.toNumber operation) :=
  toNumber_own.scopeless

/-- Reading an integer does not fail because of a variable. -/
@[simp] lemma toInteger_scopeless : FailsOnly Scopeless (v.toInteger operation) :=
  toInteger_own.scopeless

end Value

/-- A context that is done says so, and nothing of variables. -/
lemma Surroundings.check_scopeless (s : Surroundings) :
    Evaluation.FailsOnly Scopeless s.check := by
  intro state
  rw [s.run_check]
  exact (s.look_own state).scopeless

/-! ## Functions -/

namespace Definition

/-- A function that does not fail because a variable stands for nothing. -/
def Scopeless (d : Definition) : Prop :=
  ∀ s vs, Evaluation.FailsOnly EvalError.Scopeless (d.body s vs)

/-- A careful function does not fail because of a variable. -/
lemma Careful.scopeless {d : Definition} (h : d.Careful) : d.Scopeless :=
  fun s vs state => (h s vs state).mono fun _ => EvalError.Own.scopeless

/-- Nor does a call of such a function, whatever the number of its arguments. -/
lemma Scopeless.call {d : Definition} (h : d.Scopeless) (s : Surroundings) (vs : List Value) :
    Evaluation.FailsOnly EvalError.Scopeless (d.call s vs) := by
  unfold Definition.call
  split
  · exact h s vs
  · exact Evaluation.failsOnly_ofExcept (failsOnly_error.mpr trivial)

end Definition

/-- No function that comes with the language fails because a variable stands for nothing. -/
theorem Builtin.scopeless : ∀ l ∈ libraries, ∀ d ∈ l.definitions, d.Scopeless :=
  fun l hl d hd => (careful l hl d hd).scopeless

end Formula
