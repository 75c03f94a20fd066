import Formula.Builtin.Lists
import Formula.Proofs.Evaluation.Run

set_option autoImplicit false

/-!
# Functions that look at the context while they work

Such a function has a result of its own, which it comes to unless one of its looks ends it. The result
does not depend on where the looks are, so it is found by leaving them out.

## Main results

* `Formula.Looking.result_bind`, `Formula.Looking.result_mapM` — the result without the looks.
* `Formula.Looking.run_evaluation` — in a live context the function comes to its result.
* `Formula.Looking.run_evaluation_of_done` — a look that shows an end ends it.
* `Formula.Builtin.Lists.result_searchAll` — the search that stops at the first missing item.
-/

namespace Formula

namespace Looking

variable {α β : Type} {s : Surroundings} {state : State}

/-! ## Results -/

/-- A value alone is the result. -/
@[simp] lemma result_pure (a : α) : (pure a : Looking α).result = pure a :=
  rfl

/-- What does not look has its own result. -/
@[simp] lemma result_lift (r : Except EvalError α) : (liftM r : Looking α).result = r :=
  rfl

/-- A look alone has no result. -/
@[simp] lemma result_look : look.result = pure () :=
  rfl

/-- A refusal is the result. -/
@[simp] lemma result_refuse (e : EvalError) : (refuse e : Looking α).result = .error e :=
  rfl

/-- The result does not depend on the looks in between. -/
@[simp] lemma result_bind (m : Looking α) (k : α → Looking β) :
    (m >>= k).result = m.result >>= fun a => (k a).result := by
  show (m.andThen k).result = _
  rw [andThen]
  cases m.result with
  | error e => rfl
  | ok a => rfl

/-- What is done with a value is done with the result. -/
@[simp] lemma result_map (f : α → β) (m : Looking α) : (f <$> m).result = f <$> m.result := by
  show (m >>= pure ∘ f).result = _
  rw [result_bind]
  cases m.result with
  | error e => rfl
  | ok a => rfl

/-- The result of a choice is that of the branch. -/
@[simp] lemma result_ite (c : Prop) [Decidable c] (m m' : Looking α) :
    (if c then m else m').result = if c then m.result else m'.result :=
  apply_ite result c m m'

/-- Looks at each item alone have no result.

**Proof sketch.** Induction on the items. -/
@[simp] lemma result_lookAtEach (items : List α) : (lookAtEach items).result = pure () := by
  unfold lookAtEach
  induction items with
  | nil => rfl
  | cons a rest ih =>
    show (look >>= fun _ => rest.forM fun _ => look).result = pure ()
    rw [result_bind, result_look, ih]
    rfl

/-- What comes after a look at each item is not changed by it. -/
lemma result_afterLooks (items : List α) (m : Looking β) :
    (lookAtEach items >>= fun _ => m).result = m.result := by
  rw [result_bind, result_lookAtEach]
  rfl

/-- The second of two computations adds its looks, unless the first one is refused. -/
lemma looks_bind (m : Looking α) (k : α → Looking β) :
    (m >>= k).looks = m.looks + m.result.toOption.elim 0 fun a => (k a).looks := by
  show (m.andThen k).looks = _
  rw [andThen]
  cases m.result with
  | error e => rfl
  | ok a => rfl

/-- Computations that look can be put together in any order of brackets. -/
instance : LawfulMonad Looking :=
  LawfulMonad.mk' Looking
    (fun m => by
      show m >>= pure ∘ id = m
      ext1
      · rw [looks_bind]
        cases m.result <;> rfl
      · rw [result_bind]
        cases m.result <;> rfl)
    (fun a k => by
      ext1
      · rw [looks_bind]
        exact Nat.zero_add _
      · rfl)
    (fun m k l => by
      ext1
      · rw [looks_bind, looks_bind, looks_bind, result_bind]
        cases m.result with
        | error e => rfl
        | ok a =>
          show m.looks + (k a).looks + _ = m.looks + (k a >>= l).looks
          rw [looks_bind, ← Nat.add_assoc]
          rfl
      · simp only [result_bind]
        cases m.result with
        | error e => rfl
        | ok a => rfl)

/-- A list of results is the result of the list.

**Proof sketch.** Induction on the items. -/
@[simp] lemma result_mapM (f : α → Looking β) (items : List α) :
    (items.mapM f).result = items.mapM fun a => (f a).result := by
  induction items with
  | nil => rfl
  | cons a rest ih =>
    simp only [List.mapM_cons, result_bind, result_pure, ih]

/-! ## Evaluations -/

/-- Looks at a live context change the number of looks only.

**Proof sketch.** Induction on the number of looks. Each of them finds the context live and leaves a
later state. -/
lemma run_checks (hlive : s.Live state) (n : Nat) :
    ∃ later, state.Later later ∧ (checks s n).run state = (.ok (), later) := by
  induction n generalizing state with
  | zero => exact ⟨state, .refl state, rfl⟩
  | succ n ih =>
    obtain ⟨later, hlater, hrun⟩ := ih (hlive.later (.looked state))
    refine ⟨later, (State.Later.looked state).trans hlater, ?_⟩
    rw [checks, s.run_checked, hlive.look_eq]
    exact hrun

/-- In a live context a function that looks at it comes to its result. -/
lemma run_evaluation (m : Looking α) (hlive : s.Live state) :
    ∃ later, state.Later later ∧ (m.evaluation s).run state = (m.result, later) := by
  obtain ⟨later, hlater, hrun⟩ := run_checks hlive m.looks
  refine ⟨later, hlater, ?_⟩
  rw [evaluation, Evaluation.run_bind_of_ok hrun, Evaluation.run_ofExcept]

/-- The first look that shows an end is the last one.

**Proof sketch.** Induction on the number of looks before it. The first of them leaves one fewer. -/
lemma run_checks_of_done {e : EvalError} {n total : Nat} (hn : n < total)
    (hlive : ∀ k < n, s.look { state with looks := state.looks + k } = .ok ())
    (hdone : s.look { state with looks := state.looks + n } = .error e) :
    (checks s total).run state = (.error e, { state with looks := state.looks + n + 1 }) := by
  induction n generalizing state total with
  | zero =>
    obtain ⟨total, rfl⟩ : ∃ k, total = k + 1 := ⟨total - 1, by omega⟩
    have hlook : s.look state = .error e := hdone
    rw [checks, s.run_checked, hlook]
    rfl
  | succ n ih =>
    obtain ⟨total, rfl⟩ : ∃ k, total = k + 1 := ⟨total - 1, by omega⟩
    have hlook : s.look state = .ok () := hlive 0 (Nat.succ_pos n)
    have hlater (k : Nat) : { state.looked with looks := state.looked.looks + k } =
        { state with looks := state.looks + (k + 1) } := by
      rw [State.looked, Nat.add_right_comm, Nat.add_assoc]
    have hrest := @ih state.looked total (by omega)
      (fun k hk => by rw [hlater]; exact hlive (k + 1) (by omega)) (by rw [hlater]; exact hdone)
    rw [checks, s.run_checked, hlook]
    refine hrest.trans (congrArg (Prod.mk _) ?_)
    exact hlater (n + 1)

/-- **A deadline may come between two looks.** If it does so before the last look of a function, the
function fails at the first look behind it, whatever its result would have been. -/
theorem run_evaluation_of_done (m : Looking α) {e : EvalError} {n : Nat} (hn : n < m.looks)
    (hlive : ∀ k < n, s.look { state with looks := state.looks + k } = .ok ())
    (hdone : s.look { state with looks := state.looks + n } = .error e) :
    (m.evaluation s).run state = (.error e, { state with looks := state.looks + n + 1 }) := by
  rw [evaluation, Evaluation.run_bind_of_error (run_checks_of_done hn hlive hdone)]

end Looking

namespace Builtin.Lists

/-- The search that stops at the first missing item finds out whether there is one.

**Proof sketch.** Induction on the values that are looked for. -/
@[simp] lemma result_searchAll (items needles : List Value) :
    (searchAll items needles).result = pure (needles.all fun needle => needle.memberOf items) := by
  induction needles with
  | nil => rfl
  | cons needle rest ih =>
    rw [searchAll, Looking.result_bind, Looking.result_look, List.all_cons]
    show (if needle.memberOf items then searchAll items rest else pure false).result = _
    rw [Looking.result_ite, ih]
    cases needle.memberOf items <;> rfl

end Builtin.Lists

end Formula
