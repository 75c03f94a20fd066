import Formula.Calendar.Rfc3339
import Formula.Language.Definition
import Formula.Value.Coercion

set_option autoImplicit false

/-!
# Arguments of functions

A function reads its arguments by their positions, which are counted from `0`. Each reader is given
the name of the function for its complaints.

## Main definitions

* `Formula.Argument.any`, `Formula.Argument.rest` — the argument at a position, and those from a position
  on.
* `Formula.Argument.number`, `Formula.Argument.integer`, `Formula.Argument.string`,
  `Formula.Argument.bool`, `Formula.Argument.array`, `Formula.Argument.map`,
  `Formula.Argument.timestamp` — an argument of one kind.
* `Formula.Argument.orElse` — an argument that may be left out.
* `Formula.Looking` — what a function comes to that looks at the context while it works.
* `Formula.Definition.plain`, `Formula.Definition.matching`, `Formula.Definition.watching` — functions of
  their arguments.
-/

namespace Formula

namespace Argument

/-- The argument at a position. -/
def any (name : String) (args : List Value) (i : Nat) : Except EvalError Value :=
  match args[i]? with
  | some v => .ok v
  | none => .error (.function name (.missingArgument i))

/-- The arguments from a position on. There may be none, but the position must not lie behind their end. -/
def rest (name : String) (args : List Value) (i : Nat) : Except EvalError (List Value) :=
  if i ≤ args.length then .ok (args.drop i) else .error (.function name (.missingArgument args.length))

/-- The refusal of an argument of another kind. -/
def refuse {α : Type} (name expected : String) (v : Value) : Except EvalError α :=
  .error (.typeMismatch name expected v.typeName)

/-- An argument as a number. -/
def number (name : String) (args : List Value) (i : Nat) : Except EvalError Double := do
  (← any name args i).toNumber name

/-- An argument as a whole number. -/
def integer (name : String) (args : List Value) (i : Nat) : Except EvalError Int := do
  (← any name args i).toInteger name

/-- An argument that is a text. -/
def string (name : String) (args : List Value) (i : Nat) : Except EvalError String := do
  match ← any name args i with
  | .string s => return s
  | v => refuse name "string" v

/-- The characters of an argument that is a text. -/
def chars (name : String) (args : List Value) (i : Nat) : Except EvalError (List Char) := do
  return (← string name args i).toList

/-- An argument that is a boolean. -/
def bool (name : String) (args : List Value) (i : Nat) : Except EvalError Bool := do
  match ← any name args i with
  | .bool b => return b
  | v => refuse name "boolean" v

/-- The items of an argument that is an array. -/
def array (name : String) (args : List Value) (i : Nat) : Except EvalError (List Value) := do
  match ← any name args i with
  | .array items => return items
  | v => refuse name "array" v

/-- The fields of an argument that is a map. -/
def map (name : String) (args : List Value) (i : Nat) : Except EvalError (Record Value) := do
  match ← any name args i with
  | .map fields => return fields
  | v => refuse name "map" v

/-- A timestamp, or a text that denotes one. -/
def timestamp (name : String) (args : List Value) (i : Nat) : Except EvalError Timestamp := do
  match ← any name args i with
  | .timestamp t => return t
  | .string s =>
    match Timestamp.ofChars? s.toList with
    | some t => return t
    | none => throw (.function name (.invalidTimestamp s))
  | v => refuse name "timestamp" v

/-- An argument that may be left out, and what stands for it then. -/
def orElse {α : Type} (read : String → List Value → Nat → Except EvalError α) (a : α)
    (name : String) (args : List Value) (i : Nat) : Except EvalError α :=
  if i < args.length then read name args i else .ok a

end Argument

/-! ## Looks at the context -/

/-- What a function comes to that looks at the context while it works: how many looks there are, and the
result if none of them ends it. What is done between two looks cannot be seen from outside, so it does not
matter where they are. -/
@[ext] structure Looking (α : Type) where
  looks : Nat
  result : Except EvalError α

namespace Looking

/-- One computation after another. A refusal ends it, and the looks after it do not take place. -/
def andThen {α β : Type} (m : Looking α) (k : α → Looking β) : Looking β :=
  match m.result with
  | .error e => ⟨m.looks, .error e⟩
  | .ok a => ⟨m.looks + (k a).looks, (k a).result⟩

instance : Monad Looking where
  pure a := ⟨0, .ok a⟩
  bind := andThen

instance : MonadLift (Except EvalError) Looking where
  monadLift r := ⟨0, r⟩

/-- A look at the context. -/
def look : Looking Unit :=
  ⟨1, .ok ()⟩

/-- A look at the context for each item. -/
def lookAtEach {α : Type} (items : List α) : Looking Unit :=
  items.forM fun _ => look

/-- The refusal of an argument. -/
def refuse {α : Type} (e : EvalError) : Looking α :=
  ⟨0, .error e⟩

/-- So many looks at the context. -/
def checks (s : Surroundings) : Nat → Evaluation Unit
  | 0 => pure ()
  | n + 1 => do
    s.check
    checks s n

/-- The evaluation with all its looks at the context. The first one to fail ends it. -/
def evaluation {α : Type} (m : Looking α) (s : Surroundings) : Evaluation α := do
  checks s m.looks
  .ofExcept m.result

end Looking

namespace Definition

/-- A function of its arguments. -/
def plain (name : String) (arity : Arity) (f : List Value → Except EvalError Value) : Definition where
  name := name
  arity := arity
  body _ args := .ofExcept (f args)

/-- A function of its arguments that uses the library of regular expressions. -/
def matching (name : String) (arity : Arity)
    (f : Pattern.Engine → List Value → Except EvalError Value) : Definition where
  name := name
  arity := arity
  body s args := .ofExcept (f s.patterns args)

/-- A function of its arguments that looks at the context while it works. -/
def watching (name : String) (arity : Arity) (f : List Value → Looking Value) : Definition where
  name := name
  arity := arity
  body s args := (f args).evaluation s

/-- The function with one more name. -/
def withAlias (d : Definition) (name : String) : Definition :=
  { d with aliases := d.aliases ++ [name] }

end Definition

end Formula
