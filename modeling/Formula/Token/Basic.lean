import Formula.Decimal.Style
import Formula.Text.Quoted

set_option autoImplicit false

/-!
# Tokens

The words of the expression language.

## Main definitions

* `Formula.Symbol` — keywords, brackets, punctuation and operators.
* `Formula.Token` — a symbol, a literal or an identifier.
* `Formula.Lexeme` — a token with the bytes it takes in the source.
-/

namespace Formula

/-- Keywords, brackets, punctuation and operators. -/
inductive Symbol where
  | wordTrue
  | wordFalse
  | wordNull
  | wordIn
  | leftParen
  | rightParen
  | leftBracket
  | rightBracket
  | leftBrace
  | rightBrace
  | comma
  | colon
  | dot
  | question
  | plus
  | minus
  | star
  | starStar
  | slash
  | percent
  | equal
  | notEqual
  | less
  | lessEqual
  | greater
  | greaterEqual
  | isMatch
  | isNotMatch
  | and
  | or
  | not
  | coalesce
  | bitAnd
  | bitOr
  | bitXor
  | bitNot
  | shiftLeft
  | shiftRight
deriving DecidableEq, Repr

/-- How a symbol is written. -/
def Symbol.text (s : Symbol) : String :=
  match s with
  | wordTrue => "true"
  | wordFalse => "false"
  | wordNull => "null"
  | wordIn => "in"
  | leftParen => "("
  | rightParen => ")"
  | leftBracket => "["
  | rightBracket => "]"
  | leftBrace => "\x7b"
  | rightBrace => "\x7d"
  | comma => ","
  | colon => ":"
  | dot => "."
  | question => "?"
  | plus => "+"
  | minus => "-"
  | star => "*"
  | starStar => "**"
  | slash => "/"
  | percent => "%"
  | equal => "=="
  | notEqual => "!="
  | less => "<"
  | lessEqual => "<="
  | greater => ">"
  | greaterEqual => ">="
  | isMatch => "=~"
  | isNotMatch => "!~"
  | and => "&&"
  | or => "||"
  | not => "!"
  | coalesce => "??"
  | bitAnd => "&"
  | bitOr => "|"
  | bitXor => "^"
  | bitNot => "~"
  | shiftLeft => "<<"
  | shiftRight => ">>"

/-- A symbol between single quotes, as messages show it. -/
def Symbol.quoted (s : Symbol) : String :=
  "'" ++ s.text ++ "'"

/-- A word of the expression language. -/
inductive Token where
  | number (x : Double)
  | string (s : String)
  | identifier (name : String)
  | symbol (s : Symbol)
deriving DecidableEq

/-- How messages describe a token. -/
def Token.text (t : Token) : String :=
  match t with
  | number x => "number " ++ x.text
  | string s => "string " ++ Text.quoted s
  | identifier name => "identifier " ++ Text.quoted name
  | symbol s => s.quoted

/-- A token and the byte positions where it starts and stops. -/
structure Lexeme where
  token : Token
  start : Nat
  stop : Nat
deriving DecidableEq

end Formula
