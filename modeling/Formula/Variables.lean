import Formula.Value.Text

set_option autoImplicit false

/-!
# Variables

## Main definitions

* `Formula.Variables` — what names stand for.
* `Formula.Variables.set`, `Formula.Variables.delete` — the changes, with the value that was there before.
* `Formula.Variables.ofJson?` — variables from a document.
-/

namespace Formula

/-- What names stand for. -/
abbrev Variables := Record Value

namespace Variables

/-- The value of a name. -/
def get? (vars : Variables) (name : String) : Option Value :=
  Record.find? vars name

/-- Whether a name has a value. -/
def has (vars : Variables) (name : String) : Bool :=
  Record.contains vars name

/-- Gives a name a value. The first result is the value it had. -/
def set (vars : Variables) (name : String) (v : Value) : Option Value × Variables :=
  (vars.get? name, Record.insert vars name v)

/-- Takes the value from a name. The first result is the value it had. -/
def delete (vars : Variables) (name : String) : Option Value × Variables :=
  (vars.get? name, Record.erase vars name)

/-- The members of an object as variables. No other document has variables. -/
def ofJson? (j : Json) : Option Variables :=
  match Value.ofJson j with
  | .map fields => some fields
  | _ => none

/-- All variables as one value. -/
def toValue (vars : Variables) : Value :=
  .map vars

end Variables

end Formula
