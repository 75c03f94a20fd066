import Formula.Value.Coercion
import Formula.Value.Text

set_option autoImplicit false

/-!
# Templates

A template is text with directives: `%v` and `%s` stand for a value as it is shown, `%d` for a whole
number, `%f` and `%.Nf` for a number with six or `N` places, `%%` for a percent sign.

## Main definitions

* `Formula.Template` — the directives of a template, and what is wrong with the rest.
* `Formula.Template.ofChars` — reads a template.
* `Formula.Template.fill` — the text for given values.
-/

namespace Formula

/-- A step of a template. -/
inductive Directive where
  | literal (c : Char)
  /-- A value as it is shown, and the letter that asks for it. -/
  | shown (verb : Char)
  | integer
  | places (n : Nat)
deriving DecidableEq

/-- Directives, and what is wrong with the text behind them if it is not the end. -/
structure Template where
  directives : List Directive := []
  fault : Option Complaint := none

namespace Template

/-- The places that `%f` writes. -/
def usualPlaces : Nat := 6

/-- The most places that can be asked for. -/
def greatestPlaces : Nat := 17

/-- The template with one more directive in front. -/
def cons (d : Directive) (t : Template) : Template :=
  { t with directives := d :: t.directives }

/-- The places asked for behind a percent sign, if any are, and the text behind them. -/
def precision (cs : List Char) : Except Complaint (Option Nat × List Char) :=
  match cs with
  | '.' :: rest =>
    let n := Decimal.ofDigitChars (rest.takeWhile Char.isDigit)
    if n ≤ greatestPlaces then .ok (some n, rest.dropWhile Char.isDigit)
    else .error .precisionOutOfRange
  | cs => .ok (none, cs)

/-- The directive behind a percent sign, and the text behind it. -/
def directive (cs : List Char) : Except Complaint (Directive × List Char) := do
  let (places, rest) ← precision cs
  match rest with
  | [] => throw .danglingPercent
  | '%' :: rest => return (.literal '%', rest)
  | 'v' :: rest => return (.shown 'v', rest)
  | 's' :: rest => return (.shown 's', rest)
  | 'd' :: rest => return (.integer, rest)
  | 'f' :: rest => return (.places (places.getD usualPlaces), rest)
  | c :: _ => throw (.unknownVerb c)

/-- Reads a template. Every directive takes a character, so `fuel` need not exceed their number. -/
def ofCharsWith : (fuel : Nat) → List Char → Template
  | _, [] => {}
  | 0, _ :: _ => {}
  | fuel + 1, '%' :: rest =>
    match directive rest with
    | .ok (d, rest) => cons d (ofCharsWith fuel rest)
    | .error fault => { fault := some fault }
  | fuel + 1, c :: rest => cons (.literal c) (ofCharsWith fuel rest)

/-- Reads a template. -/
def ofChars (cs : List Char) : Template :=
  ofCharsWith cs.length cs

/-- The next of the values, which a letter asks for, and the others. -/
def next (name : String) (verb : Char) (values : List Value) :
    Except EvalError (Value × List Value) :=
  match values with
  | [] => .error (.function name (.nothingFor verb))
  | v :: rest => .ok (v, rest)

/-- The text of a directive, and the values that it leaves. -/
def write (name : String) (d : Directive) (values : List Value) :
    Except EvalError (List Char × List Value) :=
  match d with
  | .literal c => .ok ([c], values)
  | .shown verb => do
    let (v, rest) ← next name verb values
    return (v.display.toList, rest)
  | .integer => do
    let (v, rest) ← next name 'd' values
    return ((Double.intText (← v.toInteger name)).toList, rest)
  | .places n => do
    let (v, rest) ← next name 'f' values
    return (((← v.toNumber name).fixedText n).toList, rest)

/-- The texts of directives, which take the values they need in turn. -/
def writeAll (name : String) : List Directive → List Value → Except EvalError (List Char)
  | [], _ => .ok []
  | d :: rest, values => do
    let (cs, values) ← write name d values
    return cs ++ (← writeAll name rest values)

/-- The text of a template for given values. Values that are left over are ignored. -/
def fill (name : String) (t : Template) (values : List Value) : Except EvalError (List Char) := do
  let cs ← writeAll name t.directives values
  match t.fault with
  | none => return cs
  | some fault => throw (.function name fault)

end Template

end Formula
