import Formula.Builtin.Argument
import Formula.Language.Basic

set_option autoImplicit false

/-!
# Functions on maps

No function changes its arguments.
-/

namespace Formula.Builtin.Maps

/-- A map with a field set. -/
def set (args : List Value) : Except EvalError Value := do
  let fields ← Argument.map "set" args 0
  let key ← Argument.string "set" args 1
  return .map (fields.insert key (← Argument.any "set" args 2))

/-- The fields of all maps; where several have a key, the last one counts. -/
def merge (args : List Value) : Looking Value := do
  let maps ← (List.range args.length).mapM fun i => do
    Looking.look
    Argument.map "merge" args i
  return .map (maps.foldl Record.union [])

/-- The keys, in order. -/
def keys (args : List Value) : Except EvalError Value := do
  return .array ((← Argument.map "keys" args 0).keys.map Value.string)

/-- The entries, in the order of their keys. -/
def values (args : List Value) : Except EvalError Value := do
  return .array (← Argument.map "values" args 0).values

/-- The keys that arguments name: each is a text or an array of texts. -/
def named (name : String) (args : List Value) : Except EvalError (List String) := do
  let texts (items : List Value) : Except EvalError (List String) :=
    items.mapM fun
      | .string key => .ok key
      | v => Argument.refuse name "string" v
  let keys ← args.mapM fun
    | .array items => texts items
    | v => texts [v]
  return keys.flatten

/-- The fields with or without the keys that further arguments name. -/
def select (name : String) (wanted : Bool) (args : List Value) : Except EvalError Value := do
  let fields ← Argument.map name args 0
  let keys ← named name (← Argument.rest name args 1)
  return .map (fields.filter fun (key, _) => keys.contains key == wanted)

/-- The fields without the keys that further arguments name. -/
def without (args : List Value) : Except EvalError Value :=
  select "omit" false args

/-- The fields with the keys that further arguments name. -/
def pick (args : List Value) : Except EvalError Value :=
  select "pick" true args

/-- The entry of a key, or the third argument, or null. -/
def get (args : List Value) : Except EvalError Value := do
  let fields ← Argument.map "get" args 0
  let key ← Argument.string "get" args 1
  match Record.find? fields key with
  | some v => return v
  | none => Argument.orElse Argument.any .null "get" args 2

/-- Whether a map has a key. What is not a text is no key. -/
def hasKey (args : List Value) : Except EvalError Value := do
  let fields ← Argument.map "hasKey" args 0
  match ← Argument.any "hasKey" args 1 with
  | .string key => return .bool (fields.contains key)
  | _ => return .bool false

/-- The functions on maps. -/
def library : Library where
  category := "kv"
  definitions := [
    .plain "set" (.fixed 3) set,
    .watching "merge" (.range 1 none) merge,
    .plain "keys" (.fixed 1) keys,
    .plain "values" (.fixed 1) values,
    .plain "omit" (.range 2 none) without,
    .plain "pick" (.range 2 none) pick,
    .plain "get" (.range 2 (some 3)) get,
    .plain "hasKey" (.fixed 2) hasKey]

end Formula.Builtin.Maps
