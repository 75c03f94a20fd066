import Formula.Builtin.Argument
import Formula.Language.Basic

set_option autoImplicit false

/-!
# Functions on all values

Lengths, kinds, and values in place of empty ones.
-/

namespace Formula.Builtin.General

/-- The number of characters, items or fields. Null has none. -/
def len (args : List Value) : Except EvalError Value := do
  match ← Argument.any "len" args 0 with
  | .null => return .ofNat 0
  | .string s => return .ofNat s.length
  | .array items => return .ofNat items.length
  | .map fields => return .ofNat fields.length
  | v => Argument.refuse "len" "string, array or map" v

/-- Whether a value is empty. -/
def isEmpty (args : List Value) : Except EvalError Value := do
  return .bool (← Argument.any "isEmpty" args 0).isEmpty

/-- Whether a value is null. -/
def isNil (args : List Value) : Except EvalError Value := do
  return .bool (← Argument.any "isNil" args 0).isNull

/-- The first argument that is not empty, or null. -/
def coalesce (args : List Value) : Except EvalError Value :=
  .ok ((args.find? fun v => !v.isEmpty).getD .null)

/-- The name of the kind of a value. -/
def typeOf (args : List Value) : Except EvalError Value := do
  return .string (← Argument.any "typeOf" args 0).typeName

/-- The first argument, or the second in place of an empty one. -/
def default (args : List Value) : Except EvalError Value := do
  let v ← Argument.any "default" args 0
  if v.isEmpty then Argument.any "default" args 1 else return v

/-- The functions on all values. -/
def library : Library where
  category := "generic"
  definitions := [
    (Definition.plain "len" (.fixed 1) len).withAlias "length",
    .plain "isEmpty" (.fixed 1) isEmpty,
    .plain "isNil" (.fixed 1) isNil,
    .plain "coalesce" (.range 1 none) coalesce,
    .plain "typeOf" (.fixed 1) typeOf,
    .plain "default" (.fixed 2) default]

end Formula.Builtin.General
