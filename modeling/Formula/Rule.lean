import Formula.Parser

set_option autoImplicit false

/-!
# Rules

A rule is a text that may be bound to what it was read as. The text can change without the binding.

## Main definitions

* `Formula.Rule` — a text and its binding.
* `Formula.Rule.bindAll` — reads and binds rules up to the first one that cannot be read.
-/

namespace Formula

/-- A text and what it was read as, if it was. -/
structure Rule where
  text : String
  bound : Option Compiled := none

namespace Rule

/-- The rule with another text. The binding stays. -/
def edit (r : Rule) (text : String) : Rule :=
  { r with text := text }

/-- Reads and binds rules in their order. At the first text that cannot be read it stops: that rule and
those behind it stay as they are. -/
def bindAll (p : Parser) : List Rule → List Rule × Option SyntaxError
  | [] => ([], none)
  | r :: rest =>
    match p.parse r.text with
    | .error e => (r :: rest, some e)
    | .ok compiled =>
      let (rest, error) := bindAll p rest
      ({ r with bound := some compiled } :: rest, error)

end Rule

end Formula
