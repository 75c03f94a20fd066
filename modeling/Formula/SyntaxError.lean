import Formula.Arity
import Formula.Token.Basic

set_option autoImplicit false

/-!
# Errors in expression text

Positions are counted in bytes from the start of the source.

## Main definitions

* `Formula.Expected` — what could have come next.
* `Formula.SyntaxError` — why a text is not an expression.
* `Formula.SyntaxError.message` — the wording.
-/

namespace Formula

/-- What could have come next. -/
inductive Expected where
  | expression
  | memberName
  | mapKey
  | symbol (s : Symbol)
deriving DecidableEq

/-- The wording of what could have come next. -/
def Expected.text (e : Expected) : String :=
  match e with
  | expression => "expression"
  | memberName => "member name"
  | mapKey => "map key"
  | symbol s => s.quoted

/-- Why a text is not an expression. -/
inductive SyntaxError where
  | empty
  | unexpectedChar (found : Char) (pos : Nat)
  | unexpectedToken (found : Token) (pos : Nat)
  | unexpectedEnd (expected : Expected)
  | unclosedString (pos : Nat)
  | invalidEscape (pos : Nat)
  | invalidNumber (text : String) (pos : Nat)
  | unknownFunction (name : String) (pos : Nat)
  | arity (name : String) (expected : Arity) (found : Nat) (pos : Nat)
  | invalidRegex (pattern : String)
  | tooDeep (limit : Nat) (pos : Nat)
deriving DecidableEq

/-- The wording of an error. -/
def SyntaxError.message (e : SyntaxError) : String :=
  let place (pos : Nat) := " at " ++ Nat.repr pos
  match e with
  | empty => "empty expression"
  | unexpectedChar found pos => "unexpected character " ++ Text.quotedChar found ++ place pos
  | unexpectedToken found pos => "unexpected " ++ found.text ++ place pos
  | unexpectedEnd expected => "unexpected end of expression, expected " ++ expected.text
  | unclosedString pos => "unclosed string starting" ++ place pos
  | invalidEscape pos => "invalid escape sequence" ++ place pos
  | invalidNumber text pos => "invalid number " ++ Text.quoted text ++ place pos
  | unknownFunction name pos => "unknown function " ++ Text.quoted name ++ place pos
  | arity name expected found pos =>
    "function " ++ Text.quoted name ++ place pos ++ " expects " ++ expected.text ++
      " arguments, got " ++ Nat.repr found
  | invalidRegex pattern => "invalid regular expression " ++ Text.quoted pattern
  | tooDeep limit pos =>
    "expression nesting exceeds " ++ Nat.repr limit ++ " levels" ++ place pos

end Formula
