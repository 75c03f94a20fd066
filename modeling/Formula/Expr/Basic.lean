import Formula.Language.Definition
import Formula.Pattern.Basic
import Formula.Token.Basic

set_option autoImplicit false

/-!
# Expressions

The tree that a source text stands for. Calls hold the functions they call, and patterns that are
written as literals are read when the tree is built.

## Main definitions

* `Formula.Expr` — an expression.
* `Formula.UnaryOperator`, `Formula.BinaryOperator` — operators that evaluate all their operands.
-/

namespace Formula

/-- Operators in front of an operand. -/
inductive UnaryOperator where
  | negate
  | plus
  | not
  | bitNot
deriving DecidableEq

/-- Operators between two operands that are both evaluated. -/
inductive BinaryOperator where
  | add
  | sub
  | mul
  | div
  | rem
  | pow
  | eq
  | ne
  | lt
  | le
  | gt
  | ge
  | isIn
  | bitAnd
  | bitOr
  | bitXor
  | shiftLeft
  | shiftRight
deriving DecidableEq

/-- The symbol of an operator. -/
def BinaryOperator.symbol (op : BinaryOperator) : Symbol :=
  match op with
  | add => .plus
  | sub => .minus
  | mul => .star
  | div => .slash
  | rem => .percent
  | pow => .starStar
  | eq => .equal
  | ne => .notEqual
  | lt => .less
  | le => .lessEqual
  | gt => .greater
  | ge => .greaterEqual
  | isIn => .wordIn
  | bitAnd => .bitAnd
  | bitOr => .bitOr
  | bitXor => .bitXor
  | shiftLeft => .shiftLeft
  | shiftRight => .shiftRight

/-- The symbol of a match or of its negation. -/
def matchSymbol (negated : Bool) : Symbol :=
  if negated then .isNotMatch else .isMatch

/-- An expression. -/
inductive Expr where
  | literal (v : Value)
  | array (items : List Expr)
  | map (entries : List (String × Expr))
  | var (name : String)
  /-- The entry of a map with a key that is written out. -/
  | member (target : Expr) (key : String)
  | index (target position : Expr)
  /-- A call, with the name that is written and the function it stands for. -/
  | call (name : String) (definition : Definition) (args : List Expr)
  | unary (op : UnaryOperator) (operand : Expr)
  | binary (op : BinaryOperator) (left right : Expr)
  | and (left right : Expr)
  | or (left right : Expr)
  | coalesce (left right : Expr)
  | conditional (test positive negative : Expr)
  /-- A match against a pattern that is written as a literal. -/
  | matchesLiteral (negated : Bool) (subject : Expr) (text : String) (pattern : Pattern)
  /-- A match against a pattern that is computed. -/
  | matchesComputed (negated : Bool) (subject pattern : Expr)

instance : Inhabited Expr :=
  ⟨.literal .null⟩

end Formula
