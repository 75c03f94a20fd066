import Formula.Proofs.Evaluation.Run

set_option autoImplicit false

/-!
# Computations with few failures

What is put together from computations that only have certain failures only has these failures. The
lemmas for results are equivalences that `simp` takes a function apart with, step by step, until the
failures that it gives itself are left.

## Main definitions

* `Formula.FailsOnly` — a result that, if it is a failure, is a certain one.
* `Formula.Evaluation.FailsOnly` — the same for every run of an evaluation.

## Main results

* `Formula.failsOnly_bind`, `Formula.failsOnly_mapM` — for steps, and for lists of steps.
* `Formula.Evaluation.FailsOnly.bind` — for steps of evaluations.
-/

namespace Formula

variable {α β : Type} {P Q : EvalError → Prop}

/-! ## Results -/

/-- A result that, if it is a failure, is one with a property. -/
def FailsOnly (P : EvalError → Prop) (r : Except EvalError α) : Prop :=
  ∀ e, r = .error e → P e

/-- A weaker property is one of the failures too. -/
lemma FailsOnly.mono {r : Except EvalError α} (h : FailsOnly P r) (hPQ : ∀ e, P e → Q e) :
    FailsOnly Q r :=
  fun e he => hPQ e (h e he)

/-- A value is no failure. -/
@[simp] lemma failsOnly_ok (a : α) : FailsOnly P (.ok a) :=
  nofun

/-- A value is no failure. -/
@[simp] lemma failsOnly_pure (a : α) : FailsOnly P (pure a) :=
  nofun

/-- A failure has to have the property itself. -/
@[simp] lemma failsOnly_error {e : EvalError} : FailsOnly P (.error e : Except EvalError α) ↔ P e := by
  simp [FailsOnly]

/-- A failure has to have the property itself. -/
@[simp] lemma failsOnly_throw {e : EvalError} : FailsOnly P (throw e : Except EvalError α) ↔ P e :=
  failsOnly_error

/-- One step after another fails only so if both do, where the second follows a value of the first. -/
@[simp] lemma failsOnly_bind {m : Except EvalError α} {k : α → Except EvalError β} :
    FailsOnly P (m >>= k) ↔ FailsOnly P m ∧ ∀ a, m = .ok a → FailsOnly P (k a) := by
  cases m <;> simp [FailsOnly, bind, Except.bind]

/-- What is done with a value does not change how it fails. -/
@[simp] lemma failsOnly_map {m : Except EvalError α} {f : α → β} :
    FailsOnly P (f <$> m) ↔ FailsOnly P m := by
  cases m <;> simp [FailsOnly, Functor.map, Except.map]

/-- Either branch fails only so where it is taken. -/
@[simp] lemma failsOnly_ite {c : Prop} [Decidable c] {m m' : Except EvalError α} :
    FailsOnly P (if c then m else m') ↔ (c → FailsOnly P m) ∧ (¬c → FailsOnly P m') := by
  split <;> simp [*]

/-- What is done with every item of a list fails as it fails for one of them. -/
lemma failsOnly_mapM {f : α → Except EvalError β} {items : List α}
    (h : ∀ a ∈ items, FailsOnly P (f a)) : FailsOnly P (items.mapM f) := by
  induction items with
  | nil => simp
  | cons a rest ih =>
    obtain ⟨ha, hrest⟩ := List.forall_mem_cons.mp h
    simp [ha, ih hrest]

/-! ## Evaluations -/

namespace Evaluation

/-- An evaluation whose failures all have a property. -/
def FailsOnly (P : EvalError → Prop) (m : Evaluation α) : Prop :=
  ∀ state, Formula.FailsOnly P (m.run state).1

/-- A result in an evaluation fails as it does by itself. -/
lemma failsOnly_ofExcept {r : Except EvalError α} (h : Formula.FailsOnly P r) :
    FailsOnly P (ofExcept r) := by
  intro state
  rw [run_ofExcept]
  exact h

namespace FailsOnly

/-- A value alone does not fail. -/
lemma pure (a : α) : FailsOnly P (Pure.pure a : Evaluation α) :=
  failsOnly_ofExcept (failsOnly_ok a)

/-- What follows a step is not run if the step fails. -/
lemma bind {m : Evaluation α} {k : α → Evaluation β} (hm : FailsOnly P m)
    (hk : ∀ a, FailsOnly P (k a)) : FailsOnly P (m >>= k) := by
  intro state
  rw [run_bind]
  have hfirst := hm state
  rcases hrun : m.run state with ⟨r, final⟩
  rw [hrun] at hfirst
  cases r with
  | error e => exact failsOnly_error.mpr (failsOnly_error.mp hfirst)
  | ok a => exact hk a final

end FailsOnly

end Evaluation

end Formula
