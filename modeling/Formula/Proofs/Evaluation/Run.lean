import Formula.Parser
import Mathlib.Tactic.Lemma

set_option autoImplicit false

/-!
# Runs of evaluations

An evaluation is run from a state: the families of contexts that are cancelled, and the number of looks
at the context. It leads to a result and to another state.

## Main definitions

* `Formula.State.Later` — nothing but looks lies between two states.
* `Formula.Surroundings.Live` — no look at the context ends the evaluation, from a state on.

## Main results

* `Formula.Evaluation.run_bind` — what follows a failure is not run.
* `Formula.Surroundings.run_check` — a look at the context changes the number of looks only.
* `Formula.Surroundings.Live.later` — looks alone do not end a context.
* `Formula.Compiled.run_test` — a test fails as the value fails.
-/

namespace Formula

namespace Evaluation

variable {α β : Type}

/-- A value alone leaves the state as it is. -/
@[simp] lemma run_pure (a : α) (state : State) :
    (pure a : Evaluation α).run state = (.ok a, state) :=
  rfl

/-- A result leaves the state as it is. -/
@[simp] lemma run_ofExcept (r : Except EvalError α) (state : State) :
    (ofExcept r).run state = (r, state) := by
  cases r with
  | error e => rfl
  | ok a => rfl

/-- What follows a failure is not run. -/
lemma run_bind (m : Evaluation α) (k : α → Evaluation β) (state : State) :
    (m >>= k).run state =
      match m.run state with
      | (.error e, state) => (.error e, state)
      | (.ok a, state) => (k a).run state := by
  change (ExceptT.bindCont k (m.run state).1 : StateM State _) (m.run state).2 = _
  obtain ⟨r, final⟩ := m.run state
  cases r with
  | error e => rfl
  | ok a => rfl

/-- A run of two steps that has a value has one after the first step. -/
lemma exists_of_run_bind {m : Evaluation α} {k : α → Evaluation β} {state final : State} {b : β}
    (h : (m >>= k).run state = (.ok b, final)) :
    ∃ a state', m.run state = (.ok a, state') ∧ (k a).run state' = (.ok b, final) := by
  rw [run_bind] at h
  rcases hm : m.run state with ⟨r, state'⟩
  rw [hm] at h
  cases r with
  | error e => cases h
  | ok a => exact ⟨a, state', rfl, h⟩

/-- A second step is run from the state that the first one leaves. -/
lemma run_bind_of_ok {m : Evaluation α} {k : α → Evaluation β} {state state' : State} {a : α}
    (h : m.run state = (.ok a, state')) : (m >>= k).run state = (k a).run state' := by
  rw [run_bind, h]

/-- A second step is not run if the first one fails. -/
lemma run_bind_of_error {m : Evaluation α} {k : α → Evaluation β} {state state' : State}
    {e : EvalError} (h : m.run state = (.error e, state')) :
    (m >>= k).run state = (.error e, state') := by
  rw [run_bind, h]

/-- What is done with the value of an evaluation that only has a result is done with the result. -/
lemma map_ofExcept (f : α → β) (r : Except EvalError α) :
    f <$> ofExcept r = ofExcept (f <$> r) := by
  cases r with
  | error e => rfl
  | ok a => rfl

/-- Evaluations that run alike are the same. -/
lemma ext {m m' : Evaluation α} (h : ∀ state, m.run state = m'.run state) : m = m' :=
  funext h

/-- What follows a step only matters for the values that the step has. -/
lemma bind_congr_of_run {m : Evaluation α} {k k' : α → Evaluation β}
    (h : ∀ a state final, m.run state = (.ok a, final) → k a = k' a) : m >>= k = m >>= k' := by
  refine ext fun state => ?_
  rw [run_bind, run_bind]
  rcases hm : m.run state with ⟨r, final⟩
  cases r with
  | error e => rfl
  | ok a => simp only [h a state final hm]

end Evaluation

/-! ## Looks at the context -/

/-- Nothing but looks at the context lies between two states. -/
structure State.Later (state later : State) : Prop where
  flags_eq : later.flags = state.flags
  looks_le : state.looks ≤ later.looks

namespace State.Later

variable {state mid last : State}

/-- There need not be a look. -/
lemma refl (state : State) : state.Later state :=
  ⟨rfl, Nat.le_refl _⟩

/-- There may be one. -/
lemma looked (state : State) : state.Later state.looked :=
  ⟨rfl, Nat.le_succ _⟩

/-- Looks come one after the other. -/
lemma trans (h : state.Later mid) (h' : mid.Later last) : state.Later last :=
  ⟨h'.flags_eq.trans h.flags_eq, Nat.le_trans h.looks_le h'.looks_le⟩

end State.Later

namespace Surroundings

variable {s : Surroundings} {state last : State}

/-- A look at the context changes the number of looks only. -/
@[simp] lemma run_check (s : Surroundings) (state : State) :
    s.check.run state = (s.look state, state.looked) :=
  Evaluation.run_ofExcept (s.look state) state.looked

/-- What comes behind a look at the context. -/
lemma run_checked {α : Type} (s : Surroundings) (m : Evaluation α) (state : State) :
    (s.check >>= fun _ => m).run state =
      match s.look state with
      | .error e => (.error e, state.looked)
      | .ok _ => m.run state.looked := by
  rw [Evaluation.run_bind, s.run_check]
  cases s.look state with
  | error e => rfl
  | ok u => rfl

/-- The context is not done at any look from a state on, as long as nothing is cancelled. -/
def Live (s : Surroundings) (state : State) : Prop :=
  ∀ looks, state.looks ≤ looks → s.look { state with looks } = .ok ()

namespace Live

/-- The next look shows that the context is not done. -/
lemma look_eq (h : s.Live state) : s.look state = .ok () :=
  h state.looks (Nat.le_refl _)

/-- Looks alone do not end a context. -/
lemma later (h : s.Live state) (hlater : state.Later last) : s.Live last := by
  intro looks hlooks
  have hlook := h looks (Nat.le_trans hlater.looks_le hlooks)
  unfold look at hlook ⊢
  rwa [hlater.flags_eq]

end Live

end Surroundings

/-! ## Source texts -/

/-- A test fails as the value fails. -/
lemma Compiled.run_test (c : Compiled) (s : Surroundings) (state : State) :
    ((c.test s).run state).1 = ((c.eval s).run state).1.map fun v => !v.isEmpty := by
  unfold Compiled.test
  rw [Evaluation.run_bind]
  obtain ⟨r, final⟩ := (c.eval s).run state
  cases r with
  | error e => rfl
  | ok v => rfl

end Formula
