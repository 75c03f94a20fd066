import Formula.Proofs.Evaluation.Run

set_option autoImplicit false

/-!
# The log of an evaluation

What happens in an evaluation, in order: it comes to a node, the body of a function starts and ends,
it leaves a node with a result. Every entry of the log says where the node stands and which state the
evaluation is in at that moment.

The log is kept by an evaluator of its own, which is the evaluator of expressions with notes in
between. Without the log it is that evaluator.

## Main definitions

* `Formula.Event`, `Formula.Note` — what happens, and where and when.
* `Formula.Logged` — a computation that keeps a log.
* `Formula.Expr.logged`, `Formula.Compiled.logged` — evaluation with a log.
* `Formula.Logged.Closed` — properties that go from parts to the whole.

## Main results

* `Formula.Expr.erase_logged`, `Formula.Compiled.erase_logged` — without the log this is evaluation.
* `Formula.Logged.Closed.logged` — what goes from the parts of an evaluation to the whole holds of
  every evaluation.
-/

namespace Formula

/-! ## Logs -/

/-- Where a node stands: the numbers of the operands on the way to it, the innermost first. -/
abbrev Place := List Nat

/-- What happens in an evaluation. -/
inductive Event where
  /-- It comes to a node. -/
  | enters (e : Expr)
  /-- The body of the function that is called starts. -/
  | starts (definition : Definition) (args : List Value)
  /-- The body ends. -/
  | ends (result : Except EvalError Value)
  /-- The evaluation leaves a node. -/
  | leaves (result : Except EvalError Value)

/-- What happens, at which node, and the state then. -/
structure Note where
  place : Place
  state : State
  event : Event

/-- A result, the state then, and what has happened. -/
structure Run (α : Type) where
  result : Except EvalError α
  state : State
  log : List Note

/-- A computation that keeps a log. -/
def Logged (α : Type) :=
  State → Run α

namespace Logged

variable {α β : Type}

/-- A run that goes on with a value, if there is one. -/
def next (run : Run α) (k : α → Logged β) : Run β :=
  match run.result with
  | .error e => ⟨.error e, run.state, run.log⟩
  | .ok a => ⟨(k a run.state).result, (k a run.state).state, run.log ++ (k a run.state).log⟩

instance : Monad Logged where
  pure a := fun state => ⟨.ok a, state, []⟩
  bind m k := fun state => next (m state) k

/-- A computation in which nothing happens that the log speaks of. -/
def quiet (m : Evaluation α) : Logged α := fun state =>
  ⟨(m.run state).1, (m.run state).2, []⟩

/-- A computation between two notes. -/
def within (place : Place) (first : Event) (last : Except EvalError α → Event) (m : Logged α) :
    Logged α := fun state =>
  ⟨(m state).result, (m state).state, ⟨place, state, first⟩ ::
    ((m state).log ++ [⟨place, (m state).state, last (m state).result⟩])⟩

/-- The computation without the log. -/
def erase (m : Logged α) : Evaluation α := fun state =>
  ((m state).result, (m state).state)

/-- Without the log, a value alone is one. -/
@[simp] lemma erase_pure (a : α) : erase (pure a) = pure a :=
  rfl

/-- Without the log, a computation in which nothing happens is itself. -/
@[simp] lemma erase_quiet (m : Evaluation α) : erase (quiet m) = m :=
  rfl

/-- Without the log, the notes around a computation do not count. -/
@[simp] lemma erase_within (place : Place) (first : Event) (last : Except EvalError α → Event)
    (m : Logged α) : erase (within place first last m) = erase m :=
  rfl

/-- Without the log, one computation after another is just that.

**Proof sketch.** A failure ends both in the same state, and with a value both go on. -/
@[simp] lemma erase_bind (m : Logged α) (k : α → Logged β) :
    erase (m >>= k) = erase m >>= fun a => erase (k a) := by
  funext state
  change ((next (m state) k).result, (next (m state) k).state) =
    ExceptT.bindCont (fun a => erase (k a)) (m state).result (m state).state
  unfold next
  cases (m state).result with
  | error e => rfl
  | ok a => rfl

/-- What follows a failure is not run. -/
lemma bind_of_error {m : Logged α} {state : State} {e : EvalError}
    (h : (m state).result = .error e) (k : α → Logged β) :
    (m >>= k) state = ⟨.error e, (m state).state, (m state).log⟩ := by
  change next (m state) k = _
  unfold next
  rw [h]

/-- What follows a value goes on with the state and the log. -/
lemma bind_of_ok {m : Logged α} {state : State} {a : α} (h : (m state).result = .ok a)
    (k : α → Logged β) :
    (m >>= k) state = ⟨(k a (m state).state).result, (k a (m state).state).state,
      (m state).log ++ (k a (m state).state).log⟩ := by
  change next (m state) k = _
  unfold next
  rw [h]

/-- Without the log, a choice is one between the computations without theirs. -/
@[simp] lemma erase_ite (c : Prop) [Decidable c] (m m' : Logged α) :
    erase (if c then m else m') = if c then erase m else erase m' :=
  apply_ite erase c m m'

end Logged

/-! ## Evaluation with a log -/

/-- The call of a function with a log. The body starts only if the function takes that many
arguments. -/
def Definition.logged (d : Definition) (s : Surroundings) (place : Place) (args : List Value) :
    Logged Value :=
  if d.arity.accepts args.length then
    Logged.within place (.starts d args) .ends (Logged.quiet (d.body s args))
  else Logged.quiet (throw (.function d.name (.wrongCount d.arity args.length)))

/-- Without the log, this is the call. -/
@[simp] lemma Definition.erase_logged (d : Definition) (s : Surroundings) (place : Place)
    (args : List Value) : (d.logged s place args).erase = d.call s args := by
  unfold Definition.logged Definition.call
  rw [Logged.erase_ite]
  rfl

namespace Expr

mutual

/-- The value of an expression, with a log. -/
def logged (s : Surroundings) (place : Place) (e : Expr) : Logged Value :=
  Logged.within place (.enters e) .leaves <|
    match e with
    | .literal v => pure v
    | .array items => do return .array (← loggedAll s place 0 items)
    | .map entries => do return .map (Record.ofList (← loggedEntries s place 0 entries))
    | .var name => Logged.quiet (.ofExcept (s.lookup name))
    | .member target key => do
      Logged.quiet (.ofExcept ((← logged s (0 :: place) target).member key))
    | .index target position => do
      let v ← logged s (0 :: place) target
      let p ← logged s (1 :: place) position
      Logged.quiet (.ofExcept (v.element p))
    | .call _ definition args => do
      let vs ← loggedAll s place 0 args
      Logged.quiet s.check
      definition.logged s place vs
    | .unary op operand => do Logged.quiet (.ofExcept (op.apply (← logged s (0 :: place) operand)))
    | .binary op left right => do
      let v ← logged s (0 :: place) left
      let w ← logged s (1 :: place) right
      Logged.quiet (.ofExcept (op.apply v w))
    | .and left right => do
      if (← logged s (0 :: place) left).isEmpty then return .bool false
      else return .bool !(← logged s (1 :: place) right).isEmpty
    | .or left right => do
      if (← logged s (0 :: place) left).isEmpty then
        return .bool !(← logged s (1 :: place) right).isEmpty
      else return .bool true
    | .coalesce left right => do
      let v ← logged s (0 :: place) left
      if v.isNull then logged s (1 :: place) right else return v
    | .conditional test positive negative => do
      if (← logged s (0 :: place) test).isEmpty then logged s (2 :: place) negative
      else logged s (1 :: place) positive
    | .matchesLiteral negated subject _ pattern => do
      let v ← logged s (0 :: place) subject
      let text ← Logged.quiet (.ofExcept (v.subject (matchSymbol negated).text))
      return s.patterns.test negated pattern text
    | .matchesComputed negated subject pattern => do
      let v ← logged s (0 :: place) subject
      let text ← Logged.quiet (.ofExcept (v.subject (matchSymbol negated).text))
      Logged.quiet (.ofExcept
        (s.patterns.testComputed negated (← logged s (1 :: place) pattern) text))

/-- The values of the operands of a node from a number on, with a log. -/
def loggedAll (s : Surroundings) (place : Place) (i : Nat) : List Expr → Logged (List Value)
  | [] => pure []
  | e :: rest => do
    let v ← logged s (i :: place) e
    return v :: (← loggedAll s place (i + 1) rest)

/-- The fields of a map from a number on, with a log. -/
def loggedEntries (s : Surroundings) (place : Place) (i : Nat) :
    List (String × Expr) → Logged (List (String × Value))
  | [] => pure []
  | (key, e) :: rest => do
    let v ← logged s (i :: place) e
    return (key, v) :: (← loggedEntries s place (i + 1) rest)

end

/-! ### Without the log -/

mutual

/-- Without the log, this is the value of the expression.

**Proof sketch.** One case for each kind of node, by induction with the lists and the entries. Each line
of the evaluation with a log has its counterpart in the evaluation without one. -/
theorem erase_logged (s : Surroundings) (place : Place) (e : Expr) :
    (logged s place e).erase = eval s e := by
  cases e with
  | literal v => simp [logged, eval]
  | array items => simp [logged, eval, erase_loggedAll]
  | map entries => simp [logged, eval, erase_loggedEntries]
  | var name => simp [logged, eval]
  | member target key => simp [logged, eval, erase_logged]
  | index target position => simp [logged, eval, erase_logged]
  | call name definition args => simp [logged, eval, erase_loggedAll]
  | unary op operand => simp [logged, eval, erase_logged]
  | binary op left right => simp [logged, eval, erase_logged]
  | and left right => simp [logged, eval, erase_logged]
  | or left right => simp [logged, eval, erase_logged]
  | coalesce left right => simp [logged, eval, erase_logged]
  | conditional test positive negative => simp [logged, eval, erase_logged]
  | matchesLiteral negated subject text pattern => simp [logged, eval, erase_logged]
  | matchesComputed negated subject pattern => simp [logged, eval, erase_logged]

/-- Without the log, these are the values of the expressions. -/
theorem erase_loggedAll (s : Surroundings) (place : Place) (i : Nat) (es : List Expr) :
    (loggedAll s place i es).erase = evalAll s es := by
  cases es with
  | nil => rfl
  | cons e rest => simp [loggedAll, evalAll, erase_logged, erase_loggedAll]

/-- Without the log, these are the fields. -/
theorem erase_loggedEntries (s : Surroundings) (place : Place) (i : Nat)
    (entries : List (String × Expr)) :
    (loggedEntries s place i entries).erase = evalEntries s entries := by
  cases entries with
  | nil => rfl
  | cons entry rest => simp [loggedEntries, evalEntries, erase_logged, erase_loggedEntries]

end

end Expr

namespace Compiled

/-- The value, with a log. If the context is done, nothing happens. -/
def logged (c : Compiled) (s : Surroundings) : Logged Value := do
  Logged.quiet s.check
  c.root.logged s []

/-- Without the log, this is the value. -/
theorem erase_logged (c : Compiled) (s : Surroundings) : (c.logged s).erase = c.eval s := by
  simp [logged, eval, Expr.erase_logged]

/-- The evaluation is that of its log. -/
lemma run_eval (c : Compiled) (s : Surroundings) (state : State) :
    (c.eval s).run state = ((c.logged s state).result, (c.logged s state).state) := by
  rw [← c.erase_logged]
  rfl

end Compiled

/-! ### Looks at the context -/

/-- What comes behind a look at the context. -/
lemma Logged.checked_run {α : Type} (s : Surroundings) (m : Logged α) (state : State) :
    (Logged.quiet s.check >>= fun _ => m) state =
      match s.look state with
      | .error e => ⟨.error e, state.looked, []⟩
      | .ok _ => m state.looked := by
  change Logged.next ⟨(s.check.run state).1, (s.check.run state).2, []⟩ _ = _
  rw [s.run_check]
  cases s.look state with
  | error e => rfl
  | ok u => rfl

/-! ## What all evaluations have in common -/

/-- Properties of what happens below a node, and of a node, that go from parts to the whole. -/
structure Logged.Closed (s : Surroundings) (Below : ∀ {α : Type}, Place → Logged α → Prop)
    (Node : Place → Logged Value → Prop) : Prop where
  pure : ∀ {α : Type} (place : Place) (a : α), Below place (Pure.pure a)
  quiet : ∀ {α : Type} (place : Place) (r : Except EvalError α),
    Below place (Logged.quiet (.ofExcept r))
  bind : ∀ {α β : Type} {place : Place} {m : Logged α} {k : α → Logged β}, Below place m →
    (∀ a, Below place (k a)) → Below place (m >>= k)
  operand : ∀ {place : Place} (i : Nat) {m : Logged Value}, Node (i :: place) m → Below place m
  node : ∀ {place : Place} (e : Expr) {m : Logged Value}, (∀ name d args, e ≠ .call name d args) →
    Below place m → Node place (Logged.within place (.enters e) .leaves m)
  call : ∀ {place : Place} (name : String) (d : Definition) (args : List Expr),
    Below place (Expr.loggedAll s place 0 args) →
      Node place (Expr.logged s place (.call name d args))

namespace Logged.Closed

variable {s : Surroundings} {Below : ∀ {α : Type}, Place → Logged α → Prop}
  {Node : Place → Logged Value → Prop}

mutual

/-- What goes from parts to the whole holds of every evaluation.

**Proof sketch.** Induction on the expression, with its lists and its entries. Every node but a call is
a row of operands and steps between two notes, so it has the property if they have, and a call has it by
assumption. -/
theorem logged (h : Closed s Below Node) (place : Place) (e : Expr) :
    Node place (e.logged s place) := by
  -- A node is entered and left, and between the two notes there is a row of operands and steps.
  cases e with
  | literal v =>
    rw [Expr.logged]
    exact h.node _ (by simp) (h.pure place v)
  | array items =>
    rw [Expr.logged]
    exact h.node _ (by simp) (h.bind (h.loggedAll place 0 items) fun _ => h.pure place _)
  | map entries =>
    rw [Expr.logged]
    exact h.node _ (by simp) (h.bind (h.loggedEntries place 0 entries) fun _ => h.pure place _)
  | var name =>
    rw [Expr.logged]
    exact h.node _ (by simp) (h.quiet place _)
  | member target key =>
    have ht := h.operand 0 (h.logged (0 :: place) target)
    rw [Expr.logged]
    exact h.node _ (by simp) (h.bind ht fun _ => h.quiet place _)
  | index target position =>
    have ht := h.operand 0 (h.logged (0 :: place) target)
    have hp := h.operand 1 (h.logged (1 :: place) position)
    rw [Expr.logged]
    exact h.node _ (by simp) (h.bind ht fun _ => h.bind hp fun _ => h.quiet place _)
  | call name definition args => exact h.call name definition args (h.loggedAll place 0 args)
  | unary op operand =>
    have ho := h.operand 0 (h.logged (0 :: place) operand)
    rw [Expr.logged]
    exact h.node _ (by simp) (h.bind ho fun _ => h.quiet place _)
  | binary op left right =>
    have hl := h.operand 0 (h.logged (0 :: place) left)
    have hr := h.operand 1 (h.logged (1 :: place) right)
    rw [Expr.logged]
    exact h.node _ (by simp) (h.bind hl fun _ => h.bind hr fun _ => h.quiet place _)
  | and left right =>
    have hl := h.operand 0 (h.logged (0 :: place) left)
    have hr := h.operand 1 (h.logged (1 :: place) right)
    rw [Expr.logged]
    refine h.node _ (by simp) (h.bind hl fun v => ?_)
    split
    · exact h.pure place _
    · exact h.bind hr fun _ => h.pure place _
  | or left right =>
    have hl := h.operand 0 (h.logged (0 :: place) left)
    have hr := h.operand 1 (h.logged (1 :: place) right)
    rw [Expr.logged]
    refine h.node _ (by simp) (h.bind hl fun v => ?_)
    split
    · exact h.bind hr fun _ => h.pure place _
    · exact h.pure place _
  | coalesce left right =>
    have hl := h.operand 0 (h.logged (0 :: place) left)
    have hr := h.operand 1 (h.logged (1 :: place) right)
    rw [Expr.logged]
    refine h.node _ (by simp) (h.bind hl fun v => ?_)
    split
    · exact hr
    · exact h.pure place _
  | conditional test positive negative =>
    have ht := h.operand 0 (h.logged (0 :: place) test)
    have hp := h.operand 1 (h.logged (1 :: place) positive)
    have hn := h.operand 2 (h.logged (2 :: place) negative)
    rw [Expr.logged]
    refine h.node _ (by simp) (h.bind ht fun v => ?_)
    split
    · exact hn
    · exact hp
  | matchesLiteral negated subject text pattern =>
    have hs := h.operand 0 (h.logged (0 :: place) subject)
    rw [Expr.logged]
    exact h.node _ (by simp)
      (h.bind hs fun _ => h.bind (h.quiet place _) fun _ => h.pure place _)
  | matchesComputed negated subject pattern =>
    have hs := h.operand 0 (h.logged (0 :: place) subject)
    have hp := h.operand 1 (h.logged (1 :: place) pattern)
    rw [Expr.logged]
    exact h.node _ (by simp)
      (h.bind hs fun _ => h.bind (h.quiet place _) fun _ => h.bind hp fun _ => h.quiet place _)

/-- What goes from parts to the whole holds below a node with a list of operands.

**Proof sketch.** The first operand is a node of its own, and the rest follows by induction. -/
theorem loggedAll (h : Closed s Below Node) (place : Place) (i : Nat) (es : List Expr) :
    Below place (Expr.loggedAll s place i es) := by
  cases es with
  | nil => exact h.pure place []
  | cons e rest =>
    have he := h.operand i (h.logged (i :: place) e)
    have hrest := h.loggedAll place (i + 1) rest
    rw [Expr.loggedAll]
    exact h.bind he fun _ => h.bind hrest fun _ => h.pure place _

/-- What goes from parts to the whole holds below a node with entries.

**Proof sketch.** The value of the first entry is a node of its own, and the rest follows by induction. -/
theorem loggedEntries (h : Closed s Below Node) (place : Place) (i : Nat)
    (entries : List (String × Expr)) : Below place (Expr.loggedEntries s place i entries) := by
  cases entries with
  | nil => exact h.pure place []
  | cons entry rest =>
    obtain ⟨key, e⟩ := entry
    have he := h.operand i (h.logged (i :: place) e)
    have hrest := h.loggedEntries place (i + 1) rest
    rw [Expr.loggedEntries]
    exact h.bind he fun _ => h.bind hrest fun _ => h.pure place _

end

end Logged.Closed

end Formula
