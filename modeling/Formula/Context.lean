import Formula.EvalError

set_option autoImplicit false

/-!
# Contexts of evaluations

An evaluation runs in a context, which can be cancelled and can have a deadline. Contexts that are
derived from one another are a family and are cancelled together; a derived context never outlives the
one it comes from.

## Main definitions

* `Formula.Flags` — the families that are cancelled.
* `Formula.Context` — a family and a deadline.
* `Formula.Context.check` — why an evaluation has to stop, if it has to.
* `Formula.Contexts` — all contexts that were made, with the operations on them.
-/

namespace Formula

/-- A moment. Only the order of moments matters. -/
abbrev Moment := Nat

/-- A number that the contexts of a family have in common. -/
abbrev Family := Nat

/-- The families that are cancelled. -/
structure Flags where
  cancelled : List Family := []
deriving DecidableEq

namespace Flags

/-- Whether a family is cancelled. -/
def isSet (flags : Flags) (family : Family) : Bool :=
  flags.cancelled.contains family

/-- The flags after a family is cancelled. -/
def set (flags : Flags) (family : Family) : Flags :=
  if flags.isSet family then flags else ⟨family :: flags.cancelled⟩

end Flags

/-- What an evaluation runs in. -/
structure Context where
  family : Family
  deadline : Option Moment := none
deriving DecidableEq

namespace Context

/-- A context of the same family that ends at a moment, or earlier if this one does. -/
def withDeadline (c : Context) (moment : Moment) : Context :=
  { c with deadline := some (match c.deadline with
    | some d => min d moment
    | none => moment) }

/-- A context of the same family that ends after a time, or earlier if this one does. The sum has to be a
moment that the clock can show: where it is none, the program ends, and no context is made. -/
def withTimeout (c : Context) (now : Moment) (time : Nat) : Context :=
  c.withDeadline (now + time)

/-- Whether the family of a context is cancelled. -/
def isCancelled (c : Context) (flags : Flags) : Bool :=
  flags.isSet c.family

/-- The reason to stop: cancellation first, then a deadline that has come. -/
def check (c : Context) (flags : Flags) (now : Moment) : Except EvalError Unit :=
  if c.isCancelled flags then .error .cancelled
  else match c.deadline with
    | some d => if d ≤ now then .error .deadlineExceeded else .ok ()
    | none => .ok ()

end Context

/-- All contexts in the order they were made, and the flags of their families. -/
structure Contexts where
  made : List Context := []
  families : Nat := 0
  flags : Flags := {}

namespace Contexts

/-- A context of a new family, without a deadline. -/
def background (cs : Contexts) : Contexts :=
  { cs with made := cs.made ++ [⟨cs.families, none⟩], families := cs.families + 1 }

/-- A context made from an earlier one, if there is one with that number. -/
def derive (cs : Contexts) (parent : Nat) (f : Context → Context) : Contexts :=
  match cs.made[parent]? with
  | some c => { cs with made := cs.made ++ [f c] }
  | none => cs

/-- Cancels the family of a context, if there is one with that number. -/
def cancel (cs : Contexts) (i : Nat) : Contexts :=
  match cs.made[i]? with
  | some c => { cs with flags := cs.flags.set c.family }
  | none => cs

end Contexts

end Formula
