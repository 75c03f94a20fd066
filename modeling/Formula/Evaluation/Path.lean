import Formula.Value.Coercion

set_option autoImplicit false

/-!
# Entries of values

## Main definitions

* `Formula.Value.member` — the entry of a map with a key.
* `Formula.Value.element` — the entry at a computed position: of a map, an array or a text.
-/

namespace Formula

namespace Value

/-- The entry of a map. -/
def member (v : Value) (key : String) : Except EvalError Value :=
  match v with
  | .map fields =>
    match Record.find? fields key with
    | some entry => .ok entry
    | none => .error (.unknownKey key)
  | v => .error (.notIndexable v.typeName)

/-- The operation that messages name. -/
def elementSymbol : String := "[]"

/-- The integer of a position, which only a number can be. -/
def position (v : Value) : Except EvalError Int :=
  match v with
  | .number _ => v.toInteger elementSymbol
  | v => .error (.typeMismatch elementSymbol "integer" v.typeName)

/-- The entry of a list at a position counted from `0`. -/
def entryAt {α : Type} (items : List α) (i : Int) : Except EvalError α :=
  let outside : EvalError := .indexOutOfBounds i items.length
  if i < 0 then .error outside
  else
    match items[i.toNat]? with
    | some item => .ok item
    | none => .error outside

/-- The entry at a computed position. Texts are indexed by characters. -/
def element (v position : Value) : Except EvalError Value :=
  match v with
  | .map _ =>
    match position with
    | .string key => v.member key
    | position => .error (.typeMismatch elementSymbol "string" position.typeName)
  | .array items => do entryAt items (← position.position)
  | .string s => do return ofChars [← entryAt s.toList (← position.position)]
  | v => .error (.notIndexable v.typeName)

end Value

end Formula
