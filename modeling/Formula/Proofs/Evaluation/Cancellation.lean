import Formula.Pattern.Meaning
import Formula.Proofs.Evaluation.Log
import Formula.Proofs.Evaluation.Replacement
import Mathlib.Control.Monad.Basic

set_option autoImplicit false

/-!
# Evaluation in a cancelled context

Only the bodies of functions cancel contexts, and the context is looked at before a body starts. So
no body starts in a cancelled context, and an evaluation whose context was cancelled ends at the
next call that it comes to: with the failure of an argument if there is one, and else with the
cancellation.

## Main definitions

* `Formula.Observed` — a log in which bodies only start while the context is not cancelled.
* `Formula.interruption` — what a call in a cancelled context fails with.
* `Formula.Careful` — a computation that keeps to both.
* `Formula.Definition.AlikeWhileLive` — functions that differ in a cancelled context only.

## Main results

* `Formula.Expr.careful` — every evaluation is careful.
* `Formula.Expr.eval_replace` — what bodies would do in a cancelled context makes no difference.
* `Formula.Compiled.cancellation` — what a cancellation means for an evaluation.
-/

namespace Formula

variable {s : Surroundings} {state : State} {flags final : Flags} {log : List Note}

/-! ## Logs without bodies in a cancelled context -/

/-- A log from some flags to others, in which the flags change only while a body runs and bodies only
start while the context is not cancelled. -/
inductive Observed (s : Surroundings) : Flags → List Note → Flags → Prop
  | nil (flags : Flags) : Observed s flags [] flags
  | enters {state : State} {final : Flags} {log : List Note} (place : Place) (e : Expr)
      (h : Observed s state.flags log final) :
      Observed s state.flags (⟨place, state, .enters e⟩ :: log) final
  | leaves {state : State} {final : Flags} {log : List Note} (place : Place)
      (r : Except EvalError Value) (h : Observed s state.flags log final) :
      Observed s state.flags (⟨place, state, .leaves r⟩ :: log) final
  | body {state state' : State} {final : Flags} {log : List Note} (place : Place) (d : Definition)
      (args : List Value) (r : Except EvalError Value)
      (hlive : s.context.isCancelled state.flags = false) (h : Observed s state'.flags log final) :
      Observed s state.flags (⟨place, state, .starts d args⟩ :: ⟨place, state', .ends r⟩ :: log)
        final

namespace Observed

/-- Logs are put one behind the other where the flags are the same. -/
lemma append {last : Flags} {log' : List Note} (h : Observed s flags log final)
    (h' : Observed s final log' last) : Observed s flags (log ++ log') last := by
  induction h with
  | nil flags => exact h'
  | enters place e _ ih => exact (ih h').enters place e
  | leaves place r _ ih => exact (ih h').leaves place r
  | body place d args r hlive _ ih => exact (ih h').body place d args r hlive

/-- The context is not cancelled where a body starts.

**Proof sketch.** Induction on the log. -/
lemma live_of_starts (h : Observed s flags log final) {note : Note} (hnote : note ∈ log)
    {d : Definition} {args : List Value} (hstarts : note.event = .starts d args) :
    s.context.isCancelled note.state.flags = false := by
  induction h with
  | nil flags => cases hnote
  | enters place e _ ih =>
    rcases List.mem_cons.mp hnote with rfl | hnote
    · cases hstarts
    · exact ih hnote
  | leaves place r _ ih =>
    rcases List.mem_cons.mp hnote with rfl | hnote
    · cases hstarts
    · exact ih hnote
  | body place d' args' r hlive _ ih =>
    rcases List.mem_cons.mp hnote with rfl | hnote
    · exact hlive
    rcases List.mem_cons.mp hnote with rfl | hnote
    · cases hstarts
    · exact ih hnote

/-- In a cancelled context the flags stay as they are.

**Proof sketch.** Induction on the log. It cannot contain a body, as bodies start in a live context
only. -/
lemma flags_of_cancelled (h : Observed s flags log final)
    (hcancelled : s.context.isCancelled flags = true) :
    final = flags ∧ ∀ note ∈ log, note.state.flags = flags := by
  induction h with
  | nil flags => exact ⟨rfl, by simp⟩
  | enters place e _ ih =>
    obtain ⟨hfinal, hlog⟩ := ih hcancelled
    exact ⟨hfinal, by simpa using hlog⟩
  | leaves place r _ ih =>
    obtain ⟨hfinal, hlog⟩ := ih hcancelled
    exact ⟨hfinal, by simpa using hlog⟩
  | body place d args r hlive _ _ =>
    rw [hlive] at hcancelled
    cases hcancelled

/-- What comes behind the end of a body goes on with the flags that it left.

**Proof sketch.** Induction on the log. The end of a body is the second of its two notes, and what is asked
for is what the log says there; any other note is passed over. -/
lemma behind_ends (h : Observed s flags log final) {before after : List Note} {note : Note}
    (hlog : log = before ++ note :: after) {r : Except EvalError Value}
    (hends : note.event = .ends r) : Observed s note.state.flags after final := by
  induction h generalizing before with
  | nil flags => simp at hlog
  | enters place e h ih =>
    cases before with
    | nil =>
      cases hlog
      cases hends
    | cons first before => exact ih (List.cons.inj hlog).2
  | leaves place r' h ih =>
    cases before with
    | nil =>
      cases hlog
      cases hends
    | cons first before => exact ih (List.cons.inj hlog).2
  | body place d args r' hlive h ih =>
    cases before with
    | nil =>
      cases hlog
      cases hends
    | cons first before =>
      cases before with
      | nil =>
        cases hlog
        exact h
      | cons second before => exact ih (List.cons.inj (List.cons.inj hlog).2).2

end Observed

/-! ## Calls in a cancelled context -/

/-- What a call in a cancelled context fails with: what the first argument to fail fails with, or
the cancellation if all arguments have values. -/
def interruption (s : Surroundings) (args : List Expr) (state : State) : EvalError :=
  match ((Expr.evalAll s args).run state).1 with
  | .error e => e
  | .ok _ => .cancelled

/-- A computation that starts bodies only while the context is not cancelled, and fails if it comes
to a call when the context is cancelled. -/
structure Careful (s : Surroundings) {α : Type} (m : Logged α) : Prop where
  observed : ∀ state, Observed s state.flags (m state).log (m state).state.flags
  stops : ∀ state, ∀ note ∈ (m state).log, ∀ name d args,
    note.event = .enters (.call name d args) → s.context.isCancelled note.state.flags = true →
      (m state).result = .error (interruption s args note.state)

namespace Careful

variable {α β : Type}

/-- A value alone starts nothing. -/
lemma pure (a : α) : Careful s (Pure.pure a : Logged α) :=
  ⟨fun state => .nil state.flags, fun _ _ hnote => nomatch hnote⟩

/-- A result alone starts nothing. -/
lemma quiet (r : Except EvalError α) : Careful s (Logged.quiet (.ofExcept r)) := by
  cases r with
  | error e => exact ⟨fun state => .nil state.flags, fun _ _ hnote => nomatch hnote⟩
  | ok a => exact ⟨fun state => .nil state.flags, fun _ _ hnote => nomatch hnote⟩

/-- Careful computations one after the other are careful.

**Proof sketch.** The flags pass from the first to the second. If a call was entered in a cancelled
context by the first, then it has failed with the interruption, and the second is not run. -/
lemma bind {m : Logged α} {k : α → Logged β} (hm : Careful s m) (hk : ∀ a, Careful s (k a)) :
    Careful s (m >>= k) := by
  constructor
  · intro state
    have hobserved := hm.observed state
    cases hr : (m state).result with
    | error e =>
      rw [Logged.bind_of_error hr]
      exact hobserved
    | ok a =>
      rw [Logged.bind_of_ok hr]
      exact hobserved.append ((hk a).observed _)
  · -- A call that fails within the first computation keeps the second one from being run.
    intro state note hnote name d args hevent hcancelled
    have hstops := hm.stops state note
    cases hr : (m state).result with
    | error e =>
      rw [Logged.bind_of_error hr] at hnote ⊢
      cases hr.symm.trans (hstops hnote name d args hevent hcancelled)
      rfl
    | ok a =>
      rw [Logged.bind_of_ok hr] at hnote ⊢
      rcases List.mem_append.mp hnote with hnote | hnote
      · cases hr.symm.trans (hstops hnote name d args hevent hcancelled)
      · exact (hk a).stops _ note hnote name d args hevent hcancelled

/-- A node. If it is a call, it has to fail in a cancelled context.

**Proof sketch.** The log is that of the operands between two notes. A call that is entered is the node
itself or within it. -/
lemma node {m : Logged Value} (hm : Careful s m) (place : Place) {e : Expr}
    (he : ∀ name d args, e = .call name d args → ∀ state, s.context.isCancelled state.flags = true →
      (m state).result = .error (interruption s args state)) :
    Careful s (Logged.within place (.enters e) .leaves m) := by
  constructor
  · intro state
    exact ((hm.observed state).append (.leaves place _ (.nil _))).enters place e
  · intro state note hnote name d args hevent hcancelled
    rcases List.mem_cons.mp hnote with rfl | hnote
    · cases hevent
      exact he name d args rfl state hcancelled
    rcases List.mem_append.mp hnote with hnote | hnote
    · exact hm.stops state note hnote name d args hevent hcancelled
    · cases List.mem_singleton.mp hnote
      cases hevent

end Careful

/-! ## Evaluation is careful -/

/-- A cancelled context is done for that reason, whatever its deadline. -/
lemma Surroundings.look_of_cancelled (h : s.context.isCancelled state.flags = true) :
    s.look state = .error .cancelled := by
  unfold look Context.check
  rw [if_pos h]

/-- A look that does not end the evaluation shows that the context is not cancelled. -/
lemma Surroundings.live_of_look {u : Unit} (h : s.look state = .ok u) :
    s.context.isCancelled state.flags = false := by
  cases hc : s.context.isCancelled state.flags with
  | false => rfl
  | true =>
    rw [look_of_cancelled hc] at h
    cases h

/-- A function that is called in a live context only starts its body. -/
lemma observed_logged (d : Definition) (place : Place) (vs : List Value)
    (hlive : s.context.isCancelled state.flags = false) :
    Observed s state.flags (d.logged s place vs state).log (d.logged s place vs state).state.flags := by
  unfold Definition.logged
  split
  · exact .body place d vs _ hlive (.nil _)
  · exact .nil state.flags

/-- Once its arguments have values, a call looks at the context and then starts the body.

**Proof sketch.** The body only starts behind the look, which fails in a cancelled context. -/
lemma careful_called (d : Definition) (place : Place) (vs : List Value) :
    Careful s (Logged.quiet s.check >>= fun _ => d.logged s place vs) := by
  constructor
  · intro state
    rw [Logged.checked_run]
    cases hc : s.look state with
    | error e => exact .nil state.flags
    | ok u =>
      have hlive := Surroundings.live_of_look hc
      show Observed s state.looked.flags _ _
      exact observed_logged d place vs hlive
  · -- Neither the look nor the body comes to a call of the expression.
    intro state note hnote name d' args hevent _
    rw [Logged.checked_run] at hnote
    cases hc : s.look state with
    | error e =>
      rw [hc] at hnote
      cases hnote
    | ok u =>
      rw [hc] at hnote
      change note ∈ (d.logged s place vs state.looked).log at hnote
      unfold Definition.logged at hnote
      split at hnote
      · simp only [Logged.within, Logged.quiet, List.nil_append, List.mem_cons,
          List.not_mem_nil, or_false] at hnote
        rcases hnote with rfl | rfl <;> cases hevent
      · cases hnote

/-- A call in a cancelled context fails: its arguments leave the flags as they are, and then the
look at the context fails.

**Proof sketch.** In a cancelled context the arguments start no bodies, so the context is still
cancelled at the look behind them. -/
lemma careful_call (place : Place) (name : String) (d : Definition) (args : List Expr)
    (h : Careful s (Expr.loggedAll s place 0 args)) :
    Careful s (Expr.logged s place (.call name d args)) := by
  rw [Expr.logged]
  refine Careful.node (h.bind fun vs => careful_called d place vs) place ?_
  intro name' d' args' he state hcancelled
  cases he
  have hargs : (Expr.loggedAll s place 0 args state).result =
      ((Expr.evalAll s args).run state).1 := by
    rw [← Expr.erase_loggedAll s place 0 args]
    rfl
  have hflags := ((h.observed state).flags_of_cancelled hcancelled).1
  unfold interruption
  rw [← hargs]
  cases hr : (Expr.loggedAll s place 0 args state).result with
  | error e => rw [Logged.bind_of_error hr]
  | ok vs =>
    rw [← hflags] at hcancelled
    rw [Logged.bind_of_ok hr, Logged.checked_run, Surroundings.look_of_cancelled hcancelled]

/-- Every evaluation starts bodies only while the context is not cancelled, and fails if it comes to
a call when the context is cancelled.

**Proof sketch.** Careful computations are closed under the steps of the evaluator. -/
lemma Expr.careful (s : Surroundings) (place : Place) (e : Expr) :
    Careful s (e.logged s place) := by
  have hclosed : Logged.Closed s (fun _ m => Careful s m) (fun _ m => Careful s m) := {
    pure := fun _ a => Careful.pure a
    quiet := fun _ r => Careful.quiet r
    bind := fun hm hk => hm.bind hk
    operand := fun _ _ hm => hm
    node := fun e _ he hm => hm.node _ fun name d args h => (he name d args h).elim
    call := fun name d args h => careful_call _ name d args h }
  exact hclosed.logged place e

/-! ## Other bodies -/

/-- Functions that cannot be told apart as long as the context is not cancelled. -/
structure Definition.AlikeWhileLive (s : Surroundings) (d d' : Definition) : Prop where
  name : d'.name = d.name
  arity : d'.arity = d.arity
  body : ∀ vs state, s.context.isCancelled state.flags = false →
    (d'.body s vs).run state = (d.body s vs).run state

/-- A call looks at the context first, so such functions are called alike.

**Proof sketch.** If the look succeeds, the context is not cancelled, and the bodies run alike. -/
lemma Definition.AlikeWhileLive.checked_call {d d' : Definition} (h : AlikeWhileLive s d d')
    (vs : List Value) :
    (do s.check; d'.call s vs : Evaluation Value) = (do s.check; d.call s vs) := by
  refine Evaluation.ext fun state => ?_
  rw [s.run_checked, s.run_checked]
  cases hc : s.look state with
  | error e => rfl
  | ok u =>
    have hlive := Surroundings.live_of_look hc
    have hbody := h.body vs state.looked hlive
    simp only [Definition.call, h.arity, h.name]
    split
    · exact hbody
    · rfl

/-- **What bodies would do in a cancelled context makes no difference.** With functions in place of
others that they cannot be told apart from in a live context, the value is the same.

**Proof sketch.** A body is only reached behind a look at the context. -/
theorem Expr.eval_replace {f : Definition → Definition}
    (hf : ∀ d, Definition.AlikeWhileLive s d (f d)) (e : Expr) :
    eval s (e.replace f) = eval s e :=
  e.eval_replace_of_calledAlike fun node _ => by
    cases node with
    | call _ d => exact fun vs _ => (hf d).checked_call vs
    | _ => trivial

/-! ## Cancelled evaluations -/

/-- **No body starts in a cancelled context.** The log below is that of the evaluation.

1. The context is not cancelled where a body starts.
2. If the context is cancelled at the beginning, nothing happens, and the evaluation fails with the
   cancellation.
3. If it is cancelled when a body ends, it stays so and no body starts any more. If the evaluation
   comes to a call then, it fails: with the cancellation if the arguments of that call have values,
   and else with what the first argument to fail fails with.

**Proof sketch.** Every evaluation is careful, and what comes behind the end of a body goes on with
the flags that the body left. -/
theorem Compiled.cancellation (c : Compiled) (s : Surroundings) (state : State) :
    (c.logged s).erase = c.eval s ∧
    (∀ note ∈ (c.logged s state).log, ∀ d args, note.event = .starts d args →
      s.context.isCancelled note.state.flags = false) ∧
    (s.context.isCancelled state.flags = true →
      (c.eval s).run state = (.error .cancelled, state.looked) ∧ (c.logged s state).log = []) ∧
    ∀ before ended after r, (c.logged s state).log = before ++ ended :: after →
      ended.event = .ends r → s.context.isCancelled ended.state.flags = true →
      (∀ note ∈ after, note.state.flags = ended.state.flags ∧
        ∀ d args, note.event ≠ .starts d args) ∧
      ∀ note ∈ after, ∀ name d args, note.event = .enters (.call name d args) →
        (∀ vs, ((Expr.evalAll s args).run note.state).1 = .ok vs →
          ((c.eval s).run state).1 = .error .cancelled) ∧
        ∀ e, ((Expr.evalAll s args).run note.state).1 = .error e →
          ((c.eval s).run state).1 = .error e := by
  have hcareful : Careful s (c.logged s) := by
    refine Careful.bind ⟨fun state => ?_, fun _ _ hnote => nomatch hnote⟩
      fun _ => c.root.careful s []
    unfold Logged.quiet
    rw [s.run_check]
    exact .nil state.flags
  have herase : (c.eval s).run state = ((c.logged s state).result, (c.logged s state).state) := by
    rw [← c.erase_logged]
    rfl
  have hobserved := hcareful.observed state
  refine ⟨c.erase_logged s, fun note hnote d args => hobserved.live_of_starts hnote,
    fun hcancelled => ?_, fun before ended after r hlog hends hcancelled => ?_⟩
  · have hrun : c.logged s state = ⟨.error .cancelled, state.looked, []⟩ := by
      unfold Compiled.logged
      rw [Logged.checked_run, Surroundings.look_of_cancelled hcancelled]
    rw [herase, hrun]
    exact ⟨rfl, rfl⟩
  · -- From the end of that body on, the flags say that the context is cancelled, and stay as they are.
    have hafter := hobserved.behind_ends hlog hends
    have hflags := (hafter.flags_of_cancelled hcancelled).2
    refine ⟨fun note hnote => ⟨hflags note hnote, fun d args hstarts => ?_⟩,
      fun note hnote name d args henters => ?_⟩
    · have hlive := hafter.live_of_starts hnote hstarts
      rw [hflags note hnote, hcancelled] at hlive
      cases hlive
    · have hmem : note ∈ (c.logged s state).log := by
        rw [hlog]
        exact List.mem_append_right before (List.mem_cons_of_mem ended hnote)
      have hnext := hflags note hnote
      have hstops := hcareful.stops state note hmem name d args henters (by rwa [hnext])
      rw [herase, hstops, interruption]
      refine ⟨fun vs hvs => ?_, fun e he => ?_⟩
      · rw [hvs]
      · rw [he]

/-- A function that cancels the context it is evaluated in. -/
def stopping : Definition where
  name := "stop"
  arity := .fixed 0
  body s _ := do
    modify fun state => { state with flags := state.flags.set s.context.family }
    return .bool true

/-- A function that takes anything. -/
def ticking : Definition where
  name := "tick"
  arity := .any
  body _ _ := return .bool true

/-- The two functions by name. -/
def stopOrTick (name : String) : Option Definition :=
  if name = "stop" then some stopping else if name = "tick" then some ticking else none

/-- The first context, without a deadline and without variables. -/
def alone : Surroundings :=
  ⟨⟨0, none⟩, fun _ => 0, .standard, fun _ => none⟩

/-- In `tick() && stop() && tick()` the second `tick` ends the evaluation. -/
theorem Compiled.cancellation_between_calls :
    ∃ c : Compiled,
      Grammar.parse stopOrTick (fun _ => none) 9 "tick() && stop() && tick()" = .ok c.root ∧
      ((c.eval alone).run {}).1 = .error .cancelled := by
  let c : Compiled := ⟨"tick() && stop() && tick()", .and (.and (.call "tick" ticking [])
    (.call "stop" stopping [])) (.call "tick" ticking [])⟩
  have ht : Lexeme.ofChars "tick() && stop() && tick()".toList = .ok ([⟨.identifier "tick", 0, 4⟩,
      ⟨.symbol .leftParen, 4, 5⟩, ⟨.symbol .rightParen, 5, 6⟩, ⟨.symbol .and, 7, 9⟩,
      ⟨.identifier "stop", 10, 14⟩, ⟨.symbol .leftParen, 14, 15⟩, ⟨.symbol .rightParen, 15, 16⟩,
      ⟨.symbol .and, 17, 19⟩, ⟨.identifier "tick", 20, 24⟩, ⟨.symbol .leftParen, 24, 25⟩,
      ⟨.symbol .rightParen, 25, 26⟩], 26) := by
    decide +kernel
  have hparse : Grammar.parse stopOrTick (fun _ => none) 9 "tick() && stop() && tick()" =
      .ok c.root := by
    rw [Grammar.parse_eq ht]
    rfl
  -- The ninth note is the end of the body of `stop`, and the twelfth comes to the second `tick`.
  have hlog : (c.logged alone {}).log = (c.logged alone {}).log.take 8 ++
      ⟨[1, 0], ⟨⟨[0]⟩, 3⟩, .ends (.ok (.bool true))⟩ :: (c.logged alone {}).log.drop 9 := rfl
  have hlast : (⟨[1], ⟨⟨[0]⟩, 3⟩, .enters (.call "tick" ticking [])⟩ : Note) ∈
      (c.logged alone {}).log.drop 9 := List.mem_of_getElem? (i := 2) rfl
  obtain ⟨-, -, -, hstops⟩ := c.cancellation alone {}
  obtain ⟨-, hcalls⟩ := hstops _ _ _ (.ok (.bool true)) hlog rfl rfl
  exact ⟨c, hparse, (hcalls _ hlast "tick" ticking [] rfl).1 [] rfl⟩

/-- Arguments come before the look at the context: in `stop() && tick(x)` the next call after the
cancellation fails with the missing variable. -/
theorem Compiled.undefined_argument_behind_cancellation :
    ∃ (c : Compiled) (before after : List Note),
      Grammar.parse stopOrTick (fun _ => none) 9 "stop() && tick(x)" = .ok c.root ∧
      (c.logged alone {}).log = before ++ ⟨[0], ⟨⟨[0]⟩, 2⟩, .ends (.ok (.bool true))⟩ ::
        ⟨[0], ⟨⟨[0]⟩, 2⟩, .leaves (.ok (.bool true))⟩ ::
        ⟨[1], ⟨⟨[0]⟩, 2⟩, .enters (.call "tick" ticking [.var "x"])⟩ :: after ∧
      alone.context.isCancelled ⟨[0]⟩ = true ∧
      ((c.eval alone).run {}).1 = .error (.undefinedVariable "x") := by
  let c : Compiled := ⟨"stop() && tick(x)",
    .and (.call "stop" stopping []) (.call "tick" ticking [.var "x"])⟩
  have ht : Lexeme.ofChars "stop() && tick(x)".toList = .ok ([⟨.identifier "stop", 0, 4⟩,
      ⟨.symbol .leftParen, 4, 5⟩, ⟨.symbol .rightParen, 5, 6⟩, ⟨.symbol .and, 7, 9⟩,
      ⟨.identifier "tick", 10, 14⟩, ⟨.symbol .leftParen, 14, 15⟩, ⟨.identifier "x", 15, 16⟩,
      ⟨.symbol .rightParen, 16, 17⟩], 17) := by
    decide +kernel
  have hparse : Grammar.parse stopOrTick (fun _ => none) 9 "stop() && tick(x)" = .ok c.root := by
    rw [Grammar.parse_eq ht]
    rfl
  exact ⟨c, (c.logged alone {}).log.take 3, (c.logged alone {}).log.drop 6, hparse, rfl, rfl, rfl⟩

end Formula
