import Formula.Builtin.Argument
import Formula.Json.Reading
import Formula.Language.Basic
import Formula.Value.Text

set_option autoImplicit false

/-!
# Functions between values and documents
-/

namespace Formula.Builtin.Documents

/-- The JSON text of a value. -/
def toJson (args : List Value) : Except EvalError Value := do
  return .string (← Argument.any "toJSON" args 0).encode

/-- The value of a JSON text. -/
def parseJson (args : List Value) : Except EvalError Value := do
  match Json.ofText? (← Argument.string "parseJSON" args 0) with
  | some j => return .ofJson j
  | none => throw (.function "parseJSON" .unreadable)

/-- The functions between values and documents. -/
def library : Library where
  category := "json"
  definitions := [
    .plain "toJSON" (.fixed 1) toJson,
    .plain "parseJSON" (.fixed 1) parseJson]

end Formula.Builtin.Documents
