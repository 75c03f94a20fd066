import Formula.Context
import Formula.Pattern.Basic
import Formula.Value.Basic

set_option autoImplicit false

/-!
# Functions

A function has a name, further names, a condition on the number of its arguments, and a body. The body
sees where it is evaluated and may cancel the context of the evaluation.

Time passes while an evaluation goes on. All it sees of that is what the clock shows when it looks at the
context, so a clock is the sequence of what it shows at one look after the other, and a deadline may come
between any two of them.

## Main definitions

* `Formula.Surroundings` — where an evaluation takes place.
* `Formula.State` — what changes in the course of an evaluation.
* `Formula.Evaluation` — a computation that has a value or fails, and may cancel contexts.
* `Formula.Surroundings.check` — a look at the context.
* `Formula.Definition` — a function.
* `Formula.Definition.call` — its value for given arguments.
-/

namespace Formula

/-- Where an evaluation takes place: its context, what the clock shows at each look at the context, the
regular expressions, and what variables stand for. -/
structure Surroundings where
  context : Context
  clock : Nat → Moment
  patterns : Pattern.Engine
  scope : String → Option Value

/-- What changes in the course of an evaluation: the families that are cancelled, and how many looks at
the context there have been. -/
structure State where
  flags : Flags := {}
  looks : Nat := 0
deriving DecidableEq

/-- The state after one more look. -/
def State.looked (state : State) : State :=
  { state with looks := state.looks + 1 }

/-- A computation that has a value or fails, and may cancel families of contexts. -/
abbrev Evaluation (α : Type) := ExceptT EvalError (StateM State) α

/-- A result as a computation. -/
def Evaluation.ofExcept {α : Type} (r : Except EvalError α) : Evaluation α :=
  match r with
  | .ok a => pure a
  | .error e => throw e

namespace Surroundings

/-- What the next look at the context shows: the reason to stop, if there is one. -/
def look (s : Surroundings) (state : State) : Except EvalError Unit :=
  s.context.check state.flags (s.clock state.looks)

/-- Looks at the context, and fails if it is done. -/
def check (s : Surroundings) : Evaluation Unit := do
  let state ← get
  set state.looked
  Evaluation.ofExcept (s.look state)

end Surroundings

/-- A function. -/
structure Definition where
  name : String
  aliases : List String := []
  arity : Arity
  body : Surroundings → List Value → Evaluation Value

namespace Definition

/-- The name and the further names. -/
def names (d : Definition) : List String :=
  d.name :: d.aliases

/-- The value for given arguments. A number of arguments that the function does not take is refused
before the body is evaluated. -/
def call (d : Definition) (s : Surroundings) (args : List Value) : Evaluation Value :=
  if d.arity.accepts args.length then d.body s args
  else throw (.function d.name (.wrongCount d.arity args.length))

end Definition

end Formula
