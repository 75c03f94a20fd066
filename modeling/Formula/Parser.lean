import Formula.Evaluation.Basic
import Formula.Expr.Grammar
import Formula.Language.Basic
import Formula.Options
import Formula.Token.Lexer

set_option autoImplicit false

/-!
# From source text to values

## Main definitions

* `Formula.Grammar.parse` — the expression of a source text.
* `Formula.Compiled` — a source text and the expression it stands for.
* `Formula.Compiled.eval`, `Formula.Compiled.test` — its value, and whether that is not empty.
* `Formula.Parser` — a language with options.
* `Formula.Parser.parse` — reads a source text.
* `Formula.Language.evaluate` — reads and evaluates a source text once.
-/

namespace Formula

/-- The expression that a source text stands for, with the functions that names stand for, the patterns
that texts stand for, and the greatest depth of nesting. -/
def Grammar.parse (resolve : String → Option Definition) (compile : String → Option Pattern)
    (limit : Nat) (source : String) : Except SyntaxError Expr := do
  let (tokens, stop) ← Lexeme.ofChars source.toList
  Grammar.expression ⟨resolve, compile, limit, stop⟩ tokens

section Reading

variable {resolve : String → Option Definition} {compile : String → Option Pattern} {source : String}

/-- The tokens of a source text decide what it stands for. -/
theorem Grammar.parse_eq {tokens : List Lexeme} {stop : Nat}
    (h : Lexeme.ofChars source.toList = .ok (tokens, stop)) (limit : Nat) :
    Grammar.parse resolve compile limit source =
      Grammar.expression ⟨resolve, compile, limit, stop⟩ tokens := by
  unfold Grammar.parse
  rw [h]
  rfl

/-- The expression of a source text is that of its tokens. -/
theorem Grammar.exists_tokens_of_parse {limit : Nat} {e : Expr}
    (h : Grammar.parse resolve compile limit source = .ok e) :
    ∃ tokens stop, Lexeme.ofChars source.toList = .ok (tokens, stop) ∧
      Grammar.expression ⟨resolve, compile, limit, stop⟩ tokens = .ok e := by
  unfold Grammar.parse at h
  cases ht : Lexeme.ofChars source.toList with
  | error _ =>
    rw [ht] at h
    cases h
  | ok r =>
    rw [ht] at h
    exact ⟨r.1, r.2, rfl, h⟩

end Reading

/-- A source text and the expression it stands for. -/
structure Compiled where
  source : String
  root : Expr

namespace Compiled

/-- The value. If the context is done, nothing is evaluated. -/
def eval (c : Compiled) (s : Surroundings) : Evaluation Value := do
  s.check
  c.root.eval s

/-- Whether the value is not empty. -/
def test (c : Compiled) (s : Surroundings) : Evaluation Bool := do
  return !(← c.eval s).isEmpty

end Compiled

/-- A language with options, and the regular expressions that it reads. -/
structure Parser where
  language : Language
  options : Options := {}
  patterns : Pattern.Engine

namespace Parser

/-- The expression that a source text stands for. -/
def expression (p : Parser) (source : String) : Except SyntaxError Expr :=
  Grammar.parse p.language.resolve p.patterns.compile p.options.maxDepth source

/-- Reads a source text. -/
def parse (p : Parser) (source : String) : Except SyntaxError Compiled := do
  return ⟨source, ← p.expression source⟩

end Parser

/-- Why a source text has no value: it is not an expression, or its evaluation fails. -/
inductive Failure where
  | reading (e : SyntaxError)
  | evaluation (e : EvalError)
deriving DecidableEq

/-- The wording of a failure. -/
def Failure.message (f : Failure) : String :=
  match f with
  | reading e => "syntax error: " ++ e.message
  | evaluation e => "evaluation error: " ++ e.message

/-- Reads a source text and evaluates it in a context of its own. -/
def Language.evaluate (language : Language) (patterns : Pattern.Engine) (source : String)
    (scope : String → Option Value) : Except Failure Value :=
  match Parser.parse ⟨language, {}, patterns⟩ source with
  | .error e => .error (.reading e)
  | .ok compiled =>
    match (compiled.eval ⟨⟨0, none⟩, fun _ => 0, patterns, scope⟩ |>.run {}).1 with
    | .error e => .error (.evaluation e)
    | .ok v => .ok v

end Formula
