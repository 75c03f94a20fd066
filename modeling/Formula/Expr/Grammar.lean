import Formula.Double.Arithmetic
import Formula.Expr.Basic
import Formula.SyntaxError

set_option autoImplicit false

/-!
# From tokens to expressions

Operators have levels, from the weakest: `? :`, `??`, `||`, `&&`, comparisons and matches, `|`, `^`,
`&`, shifts, `+ -`, `* / %`, `**`, then operators in front of their operand, then `.` and `[ ]`.
`? :` and `**` group to the right, all others to the left.

Nesting is bounded. Every expression in brackets or in a list, every operand behind an operator and
every chain of operators or of accesses takes levels, and what would need more levels than there are is
refused. The grammar recurses on the levels that are left.

## Main definitions

* `Formula.Grammar` — what names stand for, and the bound.
* `Formula.Grammar.phrase` — the reader of an expression, an operand or a signed operand.
* `Formula.Grammar.expression` — the expression that all tokens form.
-/

namespace Formula

/-! ## Levels of operators -/

/-- The level of an operator between two operands. Higher levels bind tighter. -/
def Symbol.level? (s : Symbol) : Option Nat :=
  match s with
  | coalesce => some 2
  | or => some 3
  | and => some 4
  | equal | notEqual | less | lessEqual | greater | greaterEqual => some 5
  | isMatch | isNotMatch | wordIn => some 5
  | bitOr => some 6
  | bitXor => some 7
  | bitAnd => some 8
  | shiftLeft | shiftRight => some 9
  | plus | minus => some 10
  | star | slash | percent => some 11
  | starStar => some 12
  | _ => none

/-- The least level of operators in the right operand. Operators that group to the right admit their
own level there. -/
def Symbol.rightLevel (s : Symbol) (level : Nat) : Nat :=
  if s = .starStar then level else level + 1

/-- The operator in front of an operand that a symbol stands for. -/
def Symbol.unary? (s : Symbol) : Option UnaryOperator :=
  match s with
  | minus => some .negate
  | plus => some .plus
  | not => some .not
  | bitNot => some .bitNot
  | _ => none

/-- The operator that evaluates both operands that a symbol stands for. -/
def Symbol.binary? (s : Symbol) : Option BinaryOperator :=
  match s with
  | plus => some .add
  | minus => some .sub
  | star => some .mul
  | slash => some .div
  | percent => some .rem
  | starStar => some .pow
  | equal => some .eq
  | notEqual => some .ne
  | less => some .lt
  | lessEqual => some .le
  | greater => some .gt
  | greaterEqual => some .ge
  | wordIn => some .isIn
  | bitAnd => some .bitAnd
  | bitOr => some .bitOr
  | bitXor => some .bitXor
  | shiftLeft => some .shiftLeft
  | shiftRight => some .shiftRight
  | _ => none

/-- An operator in front of an operand. A minus in front of a number is part of the number. -/
def Expr.signed (op : UnaryOperator) (operand : Expr) : Expr :=
  match op, operand with
  | .negate, .literal (.number x) => .literal (.number x.neg)
  | op, operand => .unary op operand

/-! ## The grammar -/

/-- What the reading of an expression depends on. -/
structure Grammar where
  /-- The functions that names stand for. -/
  resolve : String → Option Definition
  /-- The patterns that texts stand for. -/
  compile : String → Option Pattern
  /-- The greatest depth of nesting. -/
  limit : Nat
  /-- Where the source ends. -/
  stop : Nat

/-- What part of an expression is read. -/
inductive Phrase where
  /-- A whole expression. -/
  | expression
  /-- An operand with operators of at least a level. -/
  | operand (least : Nat)
  /-- An operand with the operators in front of it. -/
  | signed

namespace Grammar

/-- What is read, and the tokens after it. -/
abbrev Outcome (α : Type) := Except SyntaxError (α × List Lexeme)

/-- A reader of phrases one level deeper. -/
abbrev Inner := Phrase → List Lexeme → Outcome Expr

/-- Where the next token starts. -/
def here (g : Grammar) (tokens : List Lexeme) : Nat :=
  match tokens with
  | [] => g.stop
  | t :: _ => t.start

/-- The error for a token that cannot come next. -/
def unexpected {α : Type} (tokens : List Lexeme) (expected : Expected) : Except SyntaxError α :=
  match tokens with
  | [] => .error (.unexpectedEnd expected)
  | t :: _ => .error (.unexpectedToken t.token t.start)

/-- The error for nesting that is too deep. -/
def tooDeep {α : Type} (g : Grammar) (pos : Nat) : Except SyntaxError α :=
  .error (.tooDeep g.limit pos)

/-- The tokens after a symbol that has to come next. -/
def expect (s : Symbol) (tokens : List Lexeme) : Except SyntaxError (List Lexeme) :=
  match tokens with
  | ⟨.symbol t, _, _⟩ :: rest => if t = s then .ok rest else unexpected tokens (.symbol s)
  | _ => unexpected tokens (.symbol s)

/-- Items with commas between them up to a closing symbol; a comma may stand before that symbol. Each
further item takes a comma, so `fuel` need not exceed the number of tokens. -/
def items {α : Type} (close : Symbol) (item : List Lexeme → Outcome α) :
    (fuel : Nat) → List Lexeme → Outcome (List α)
  | fuel, tokens =>
    match expect close tokens with
    | .ok rest => .ok ([], rest)
    | .error _ =>
      match item tokens with
      | .error e => .error e
      | .ok (x, rest) =>
        match expect .comma rest with
        | .error _ =>
          match expect close rest with
          | .error e => .error e
          | .ok rest => .ok ([x], rest)
        | .ok rest =>
          match fuel with
          | 0 => unexpected rest (.symbol close)
          | fuel + 1 =>
            match items close item fuel rest with
            | .error e => .error e
            | .ok (xs, rest) => .ok (x :: xs, rest)

/-- An entry of a map: an identifier or a text, a colon, an expression. -/
def entry (inner : Inner) (tokens : List Lexeme) : Outcome (String × Expr) :=
  let after (key : String) (rest : List Lexeme) : Outcome (String × Expr) :=
    match expect .colon rest with
    | .error e => .error e
    | .ok rest =>
      match inner .expression rest with
      | .error e => .error e
      | .ok (value, rest) => .ok ((key, value), rest)
  match tokens with
  | ⟨.identifier key, _, _⟩ :: rest => after key rest
  | ⟨.string key, _, _⟩ :: rest => after key rest
  | _ => unexpected tokens .mapKey

/-- A call behind the name at `pos` and its parenthesis. The name has to stand for a function, and the
number of arguments has to be one it takes. -/
def call (g : Grammar) (inner : Inner) (name : String) (pos : Nat) (tokens : List Lexeme) :
    Outcome Expr :=
  match g.resolve name with
  | none => .error (.unknownFunction name pos)
  | some definition =>
    match items .rightParen (inner .expression) tokens.length tokens with
    | .error e => .error e
    | .ok (args, rest) =>
      if definition.arity.accepts args.length then .ok (.call name definition args, rest)
      else .error (.arity name definition.arity args.length pos)

/-- An operand without operators: a literal, a variable, a call, a list, a map, or an expression in
parentheses. -/
def primary (g : Grammar) (inner : Inner) (tokens : List Lexeme) : Outcome Expr :=
  match tokens with
  | ⟨.number x, _, _⟩ :: rest => .ok (.literal (.number x), rest)
  | ⟨.string s, _, _⟩ :: rest => .ok (.literal (.string s), rest)
  | ⟨.symbol .wordTrue, _, _⟩ :: rest => .ok (.literal (.bool true), rest)
  | ⟨.symbol .wordFalse, _, _⟩ :: rest => .ok (.literal (.bool false), rest)
  | ⟨.symbol .wordNull, _, _⟩ :: rest => .ok (.literal .null, rest)
  | ⟨.symbol .leftParen, _, _⟩ :: rest =>
    match inner .expression rest with
    | .error e => .error e
    | .ok (e, rest) =>
      match expect .rightParen rest with
      | .error e => .error e
      | .ok rest => .ok (e, rest)
  | ⟨.symbol .leftBracket, _, _⟩ :: rest =>
    match items .rightBracket (inner .expression) rest.length rest with
    | .error e => .error e
    | .ok (es, rest) => .ok (.array es, rest)
  | ⟨.symbol .leftBrace, _, _⟩ :: rest =>
    match items .rightBrace (entry inner) rest.length rest with
    | .error e => .error e
    | .ok (entries, rest) => .ok (.map entries, rest)
  | ⟨.identifier name, pos, _⟩ :: ⟨.symbol .leftParen, _, _⟩ :: rest => g.call inner name pos rest
  | ⟨.identifier name, _, _⟩ :: rest => .ok (.var name, rest)
  | _ => unexpected tokens .expression

/-- Accesses to an operand, at most `left` of them. -/
def accesses (g : Grammar) (inner : Inner) : (left : Nat) → Expr → List Lexeme → Outcome Expr
  | left, e, tokens =>
    match tokens with
    | ⟨.symbol .dot, pos, _⟩ :: rest =>
      match rest with
      | ⟨.identifier name, _, _⟩ :: rest =>
        match left with
        | 0 => g.tooDeep pos
        | left + 1 => accesses g inner left (.member e name) rest
      | _ => unexpected rest .memberName
    | ⟨.symbol .leftBracket, pos, _⟩ :: rest =>
      match inner .expression rest with
      | .error e => .error e
      | .ok (position, rest) =>
        match expect .rightBracket rest with
        | .error e => .error e
        | .ok rest =>
          match left with
          | 0 => g.tooDeep pos
          | left + 1 => accesses g inner left (.index e position) rest
    | _ => .ok (e, tokens)

/-- An operand without operators and the accesses behind it. -/
def accessed (g : Grammar) (inner : Inner) (levels : Nat) (tokens : List Lexeme) : Outcome Expr :=
  match g.primary inner tokens with
  | .error e => .error e
  | .ok (e, rest) => g.accesses inner levels e rest

/-- The expression of an operator, which stands at `pos`, between two operands. A pattern that is written
as a literal has to be a regular expression. -/
def combine (g : Grammar) (s : Symbol) (pos : Nat) (left right : Expr) : Except SyntaxError Expr :=
  match s, right with
  | .coalesce, _ => .ok (.coalesce left right)
  | .or, _ => .ok (.or left right)
  | .and, _ => .ok (.and left right)
  | .isMatch, .literal (.string text) => literalMatch false text
  | .isNotMatch, .literal (.string text) => literalMatch true text
  | .isMatch, _ => .ok (.matchesComputed false left right)
  | .isNotMatch, _ => .ok (.matchesComputed true left right)
  | s, _ =>
    match s.binary? with
    | some op => .ok (.binary op left right)
    | none => .error (.unexpectedToken (.symbol s) pos)
where
  /-- A match against a literal. -/
  literalMatch (negated : Bool) (text : String) : Except SyntaxError Expr :=
    match g.compile text with
    | some pattern => .ok (.matchesLiteral negated left text pattern)
    | none => .error (.invalidRegex text)

/-- Operators of at least a level and their right operands, at most `left` of them. -/
def operators (g : Grammar) (inner : Inner) (least : Nat) :
    (left : Nat) → Expr → List Lexeme → Outcome Expr
  | left, e, tokens =>
    match tokens with
    | ⟨.symbol s, pos, _⟩ :: rest =>
      match s.level? with
      | none => .ok (e, tokens)
      | some level =>
        if level < least then .ok (e, tokens)
        else
          match inner (.operand (s.rightLevel level)) rest with
          | .error e => .error e
          | .ok (right, rest) =>
            match left with
            | 0 => g.tooDeep pos
            | left + 1 =>
              match g.combine s pos e right with
              | .error e => .error e
              | .ok e => operators g inner least left e rest
    | _ => .ok (e, tokens)

/-- An operand with the operators in front of it and the accesses behind it. -/
def signed (g : Grammar) (inner : Inner) (levels : Nat) (tokens : List Lexeme) : Outcome Expr :=
  match tokens with
  | ⟨.symbol s, _, _⟩ :: rest =>
    match s.unary? with
    | some op =>
      match inner .signed rest with
      | .error e => .error e
      | .ok (operand, rest) => .ok (.signed op operand, rest)
    | none => g.accessed inner levels tokens
  | _ => g.accessed inner levels tokens

/-- An operand with operators of at least a level. -/
def operand (g : Grammar) (inner : Inner) (levels least : Nat) (tokens : List Lexeme) :
    Outcome Expr :=
  match g.signed inner levels tokens with
  | .error e => .error e
  | .ok (e, rest) => g.operators inner least levels e rest

/-- An operand, perhaps with two alternatives that it decides between. -/
def conditional (g : Grammar) (inner : Inner) (levels : Nat) (tokens : List Lexeme) :
    Outcome Expr :=
  match g.operand inner levels 0 tokens with
  | .error e => .error e
  | .ok (test, rest) =>
    match expect .question rest with
    | .error _ => .ok (test, rest)
    | .ok rest =>
      match inner .expression rest with
      | .error e => .error e
      | .ok (positive, rest) =>
        match expect .colon rest with
        | .error e => .error e
        | .ok rest =>
          match inner .expression rest with
          | .error e => .error e
          | .ok (negative, rest) => .ok (.conditional test positive negative, rest)

/-- A phrase on a level of its own, with `levels` levels left for it. -/
def phrase (g : Grammar) : (levels : Nat) → Phrase → List Lexeme → Outcome Expr
  | 0, _, tokens => g.tooDeep (g.here tokens)
  | levels + 1, p, tokens =>
    let inner : Inner := fun p tokens => phrase g levels p tokens
    match p with
    | .expression => g.conditional inner levels tokens
    | .operand least => g.operand inner levels least tokens
    | .signed => g.signed inner levels tokens

/-- The expression that all tokens form. -/
def expression (g : Grammar) (tokens : List Lexeme) : Except SyntaxError Expr :=
  match tokens with
  | [] => .error .empty
  | tokens =>
    match g.phrase g.limit .expression tokens with
    | .error e => .error e
    | .ok (e, []) => .ok e
    | .ok (_, t :: _) => .error (.unexpectedToken t.token t.start)

end Grammar

end Formula
