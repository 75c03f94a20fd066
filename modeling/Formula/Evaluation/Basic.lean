import Formula.Evaluation.Operator
import Formula.Evaluation.Path

set_option autoImplicit false

/-!
# Evaluation

Operands, arguments and entries are evaluated from left to right, and the first failure ends an
evaluation. The context is looked at before a function is called.

## Main definitions

* `Formula.Expr.eval` — the value of an expression.
* `Formula.Expr.evalAll`, `Formula.Expr.evalEntries` — the values of lists of expressions.
-/

namespace Formula

namespace Surroundings

/-- The value of a variable. A name that stands for nothing is a failure. -/
def lookup (s : Surroundings) (name : String) : Except EvalError Value :=
  match s.scope name with
  | some v => .ok v
  | none => .error (.undefinedVariable name)

end Surroundings

namespace Pattern.Engine

/-- Whether a pattern is found in the text of a value, or is not found if the match is negated. -/
def test (patterns : Engine) (negated : Bool) (pattern : Pattern) (subject : String) : Value :=
  .bool (patterns.occursIn pattern subject != negated)

/-- A match against a pattern that is given as a value. -/
def testComputed (patterns : Engine) (negated : Bool) (pattern : Value) (subject : String) :
    Except EvalError Value :=
  match pattern with
  | .string text =>
    match patterns.compile text with
    | some pattern => .ok (patterns.test negated pattern subject)
    | none => .error (.invalidRegex text)
  | pattern => .error (.typeMismatch (matchSymbol negated).text "string" pattern.typeName)

end Pattern.Engine

namespace Expr

mutual

/-- The value of an expression. -/
def eval (s : Surroundings) : Expr → Evaluation Value
  | .literal v => pure v
  | .array items => do return .array (← evalAll s items)
  | .map entries => do return .map (Record.ofList (← evalEntries s entries))
  | .var name => .ofExcept (s.lookup name)
  | .member target key => do .ofExcept ((← eval s target).member key)
  | .index target position => do
    let v ← eval s target
    let p ← eval s position
    .ofExcept (v.element p)
  | .call _ definition args => do
    let vs ← evalAll s args
    s.check
    definition.call s vs
  | .unary op operand => do .ofExcept (op.apply (← eval s operand))
  | .binary op left right => do
    let v ← eval s left
    let w ← eval s right
    .ofExcept (op.apply v w)
  | .and left right => do
    if (← eval s left).isEmpty then return .bool false
    else return .bool !(← eval s right).isEmpty
  | .or left right => do
    if (← eval s left).isEmpty then return .bool !(← eval s right).isEmpty
    else return .bool true
  | .coalesce left right => do
    let v ← eval s left
    if v.isNull then eval s right else return v
  | .conditional test positive negative => do
    if (← eval s test).isEmpty then eval s negative else eval s positive
  | .matchesLiteral negated subject _ pattern => do
    let text ← .ofExcept ((← eval s subject).subject (matchSymbol negated).text)
    return s.patterns.test negated pattern text
  | .matchesComputed negated subject pattern => do
    let text ← .ofExcept ((← eval s subject).subject (matchSymbol negated).text)
    .ofExcept (s.patterns.testComputed negated (← eval s pattern) text)

/-- The values of expressions. -/
def evalAll (s : Surroundings) : List Expr → Evaluation (List Value)
  | [] => pure []
  | e :: rest => do
    let v ← eval s e
    return v :: (← evalAll s rest)

/-- The fields that entries stand for, in the order they are written. -/
def evalEntries (s : Surroundings) : List (String × Expr) → Evaluation (List (String × Value))
  | [] => pure []
  | (key, e) :: rest => do
    let v ← eval s e
    return (key, v) :: (← evalEntries s rest)

end

end Expr

end Formula
