import Formula.Decimal.Basic

set_option autoImplicit false

/-!
# Reading numbers

The grammar of numbers in text: an optional sign, digits with an optional point, an optional
exponent, at least one digit before or after the point; or an infinity or NaN by name.

## Main definitions

* `Formula.Decimal.ofChars?` — an unsigned decimal.
* `Formula.Double.ofChars?` — the number a text denotes, rounded correctly.
-/

namespace Formula

namespace Decimal

/-- The value of a digit character. -/
def digitValue (c : Char) : Nat :=
  c.toNat - '0'.toNat

/-- The natural number written by digit characters. -/
def ofDigitChars (cs : List Char) : Nat :=
  cs.foldl (fun n c => n * 10 + digitValue c) 0

/-- A whole decimal exponent: an optional sign and at least one digit. -/
def exponent? (cs : List Char) : Option Int :=
  let (negative, digits) := match cs with
    | '-' :: rest => (true, rest)
    | '+' :: rest => (false, rest)
    | rest => (false, rest)
  if digits ≠ [] ∧ digits.all Char.isDigit then
    let n : Int := ofDigitChars digits
    some (if negative then -n else n)
  else none

/-- An unsigned decimal: digits, a point and digits, an exponent. The point and the exponent may be
missing, and so may the digits on one side of the point. -/
def ofChars? (cs : List Char) : Option Decimal :=
  let whole := cs.takeWhile Char.isDigit
  let rest := cs.dropWhile Char.isDigit
  let (places, rest) := match rest with
    | '.' :: more => (more.takeWhile Char.isDigit, more.dropWhile Char.isDigit)
    | rest => ([], rest)
  if whole = [] ∧ places = [] then none
  else
    let digits := ofDigitChars (whole ++ places)
    match rest with
    | [] => some ⟨digits, -(places.length : Int)⟩
    | c :: more =>
      if c = 'e' ∨ c = 'E' then
        (exponent? more).map fun e => ⟨digits, e - places.length⟩
      else none

end Decimal

namespace Double

/-- Infinity or NaN by name, in any mixture of cases. -/
def ofName? (negative : Bool) (cs : List Char) : Option Double :=
  let name := cs.map Char.toLower
  if name = "inf".toList ∨ name = "infinity".toList then some (infinity negative)
  else if name = "nan".toList then some (ofMagnitude negative nan.magnitude)
  else none

/-- The number a text denotes, if it denotes one. Blanks are not allowed. -/
def ofChars? (cs : List Char) : Option Double :=
  let (negative, rest) := match cs with
    | '-' :: more => (true, more)
    | '+' :: more => (false, more)
    | more => (false, more)
  match Decimal.ofChars? rest with
  | some d => some (d.toDouble negative)
  | none => ofName? negative rest

end Double

end Formula
