import Formula.Decimal.Reading
import Formula.Double.Arithmetic
import Formula.Json.Basic
import Formula.Text.Hex

set_option autoImplicit false

/-!
# Reading JSON documents

The whole text has to be one document, with blanks anywhere between its parts and arrays and objects
nested at most 127 deep.

Numbers with a point or an exponent keep as many leading digits as fit in 64 bits; the digits after
them only scale. The digits are then multiplied or divided by one power of ten, so the result may be a
unit away from the nearest number. Integers that fit in 64 bits are exact.

## Main definitions

* `Formula.Json.number?` — a number.
* `Formula.Json.string?` — a text.
* `Formula.Json.ofChars?` — a document.
-/

namespace Formula

namespace Json

/-! ## Numbers -/

/-- The greatest integer that the leading digits may form. -/
def greatestSignificand : Nat :=
  0xffffffffffffffff

/-- The greatest exponent that is read as written. -/
def greatestExponent : Nat :=
  0x7fffffff

/-- Digits, as far as a significand with `n` in front of them has room for them, and the digits
after them. -/
def fitting (n : Nat) : List Char → Nat × List Char
  | [] => (n, [])
  | c :: cs =>
    let m := n * 10 + Decimal.digitValue c
    if m ≤ greatestSignificand then fitting m cs else (n, c :: cs)

/-- A power of ten as a number. -/
def powerOfTen (n : Nat) : Double :=
  (Decimal.mk 1 n).toDouble false

/-- A number divided by `10 ^ n`, in steps of `10 ^ 308` as long as something is left of it. -/
def scaleDown (x : Double) (n : Nat) : Double :=
  if h : n ≤ 308 then x.div (powerOfTen n)
  else if x.isZero then x
  else scaleDown (x.div (powerOfTen 308)) (n - 308)
termination_by n

/-- The number `significand * 10 ^ exponent`, unless it is too large. -/
def scaled? (significand : Nat) (exponent : Int) : Option Double :=
  let x := Double.ofNat significand
  if exponent < 0 then some (scaleDown x (-exponent).toNat)
  else if 308 < exponent then if x.isZero then some x else none
  else
    let y := x.mul (powerOfTen exponent.toNat)
    if y.isInfinite then none else some y

/-- The exponent part of a number: its sign and its digits. -/
def exponentPart? (cs : List Char) : Option (Bool × List Char × List Char) :=
  let (negative, cs) := match cs with
    | '+' :: rest => (false, rest)
    | '-' :: rest => (true, rest)
    | rest => (false, rest)
  let digits := cs.takeWhile Char.isDigit
  if digits = [] then none else some (negative, digits, cs.dropWhile Char.isDigit)

/-- A number with a significand, scaled by `10 ^ exponent` and an exponent part if there is one. An
exponent that is too large to be read leaves zero, or nothing if it is positive and the significand is
not zero. -/
def withExponent? (significand : Nat) (exponent : Int) (cs : List Char) :
    Option (Double × List Char) :=
  match cs with
  | c :: rest =>
    if c = 'e' ∨ c = 'E' then do
      let (negative, digits, rest) ← exponentPart? rest
      let n := Decimal.ofDigitChars digits
      if greatestExponent < n then
        if negative ∨ significand = 0 then some (Double.zero false, rest) else none
      else
        let x ← scaled? significand (if negative then exponent - n else exponent + n)
        some (x, rest)
    else (scaled? significand exponent).map fun x => (x, cs)
  | [] => (scaled? significand exponent).map fun x => (x, cs)

/-- An unsigned number and the text after it. -/
def unsigned? (cs : List Char) : Option (JsonNumber × List Char) :=
  let digits := cs.takeWhile Char.isDigit
  let rest := cs.dropWhile Char.isDigit
  let (significand, excess) := fitting 0 digits
  let real (r : Option (Double × List Char)) : Option (JsonNumber × List Char) :=
    r.map fun (x, rest) => (.real x, rest)
  if digits = [] ∨ (digits.head? = some '0' ∧ 1 < digits.length) then none
  else match rest with
    | '.' :: more =>
      let places := more.takeWhile Char.isDigit
      let (significand, skipped) := fitting significand places
      if places = [] then none
      else real (withExponent? significand
        (excess.length - ((places.length - skipped.length : Nat) : Int))
        (more.dropWhile Char.isDigit))
    | c :: _ =>
      if c = 'e' ∨ c = 'E' ∨ excess ≠ [] then real (withExponent? significand excess.length rest)
      else some (.int significand, rest)
    | [] =>
      if excess ≠ [] then real (withExponent? significand excess.length rest)
      else some (.int significand, rest)

/-- The negative of a number. Zero and integers below `-2 ^ 63` are no integers then. -/
def negate (n : JsonNumber) : JsonNumber :=
  match n with
  | .int i => if 0 < i ∧ i ≤ 0x8000000000000000 then .int (-i) else .real (Double.ofInt i).neg
  | .real x => .real x.neg

/-- A number and the text after it. -/
def number? (cs : List Char) : Option (JsonNumber × List Char) :=
  match cs with
  | '-' :: rest => (unsigned? rest).map fun (n, rest) => (negate n, rest)
  | cs => unsigned? cs

/-! ## Texts -/

/-- The number of four hexadecimal digits. -/
def hexFour? (a b c d : Char) : Option Nat :=
  if [a, b, c, d].all Text.isHexDigit then some (Text.hexNumber [a, b, c, d]) else none

/-- The character of a one-letter escape. -/
def shortEscape? (c : Char) : Option Char :=
  match c with
  | '"' => some '"'
  | '\\' => some '\\'
  | '/' => some '/'
  | 'b' => some '\x08'
  | 'f' => some '\x0c'
  | 'n' => some '\n'
  | 'r' => some '\r'
  | 't' => some '\t'
  | _ => none

/-- The character of two halves of a pair, which four-digit escapes write. -/
def pair? (high low : Nat) : Option Char :=
  if 0xd800 ≤ high ∧ high < 0xdc00 ∧ 0xdc00 ≤ low ∧ low < 0xe000 then
    some (Char.ofNat ((high - 0xd800) * 0x400 + (low - 0xdc00) + 0x10000))
  else none

/-- The characters up to the closing quote, and the text after it. Controls have to be escaped, and
halves of pairs have to be paired. -/
def stringTail? : List Char → Option (List Char × List Char)
  | [] => none
  | '"' :: rest => some ([], rest)
  | '\\' :: 'u' :: a :: b :: c :: d :: rest =>
    match hexFour? a b c d with
    | none => none
    | some n =>
      if n < 0xd800 ∨ 0xe000 ≤ n then
        (stringTail? rest).map fun (cs, rest) => (Char.ofNat n :: cs, rest)
      else match rest with
        | '\\' :: 'u' :: a' :: b' :: c' :: d' :: rest =>
          match (hexFour? a' b' c' d').bind (pair? n) with
          | some p => (stringTail? rest).map fun (cs, rest) => (p :: cs, rest)
          | none => none
        | _ => none
  | '\\' :: c :: rest =>
    match shortEscape? c with
    | some e => (stringTail? rest).map fun (cs, rest) => (e :: cs, rest)
    | none => none
  | c :: rest =>
    if c.toNat < 0x20 ∨ c = '\\' then none
    else (stringTail? rest).map fun (cs, rest) => (c :: cs, rest)

/-- A text and what stands after it. -/
def string? (cs : List Char) : Option (String × List Char) :=
  match cs with
  | '"' :: rest => (stringTail? rest).map fun (cs, rest) => (String.ofList cs, rest)
  | _ => none

/-! ## Documents -/

/-- The blanks of JSON. -/
def isBlank (c : Char) : Bool :=
  c == ' ' || c == '\n' || c == '\t' || c == '\r'

/-- The text without blanks in front. -/
def skipBlanks (cs : List Char) : List Char :=
  cs.dropWhile isBlank

/-- How deep arrays and objects may be nested. -/
def greatestDepth : Nat := 127

mutual

/-- A document, after any blanks, and the text after it. `depth` levels of nesting are left. Every
call consumes a character or is the first of its level, so `fuel` need not exceed twice the length of
the text. -/
def value? (fuel depth : Nat) (cs : List Char) : Option (Json × List Char) :=
  match fuel with
  | 0 => none
  | fuel + 1 =>
    match skipBlanks cs with
    | 'n' :: 'u' :: 'l' :: 'l' :: rest => some (.null, rest)
    | 't' :: 'r' :: 'u' :: 'e' :: rest => some (.bool true, rest)
    | 'f' :: 'a' :: 'l' :: 's' :: 'e' :: rest => some (.bool false, rest)
    | '"' :: rest => (string? ('"' :: rest)).map fun (s, rest) => (.string s, rest)
    | '[' :: rest =>
      if depth = 0 then none
      else match skipBlanks rest with
        | ']' :: rest => some (.array [], rest)
        | rest => (items? fuel (depth - 1) rest).map fun (items, rest) => (.array items, rest)
    | '\x7b' :: rest =>
      if depth = 0 then none
      else match skipBlanks rest with
        | '\x7d' :: rest => some (.object [], rest)
        | rest =>
          (members? fuel (depth - 1) rest).map fun (members, rest) => (.object members, rest)
    | cs => (number? cs).map fun (n, rest) => (.number n, rest)

/-- The items up to the closing bracket, at least one. -/
def items? (fuel depth : Nat) (cs : List Char) : Option (List Json × List Char) :=
  match fuel with
  | 0 => none
  | fuel + 1 =>
    match value? fuel depth cs with
    | none => none
    | some (j, rest) =>
      match skipBlanks rest with
      | ',' :: rest => (items? fuel depth rest).map fun (items, rest) => (j :: items, rest)
      | ']' :: rest => some ([j], rest)
      | _ => none

/-- The members up to the closing brace, at least one. -/
def members? (fuel depth : Nat) (cs : List Char) : Option (List (String × Json) × List Char) :=
  match fuel with
  | 0 => none
  | fuel + 1 =>
    match string? (skipBlanks cs) with
    | none => none
    | some (name, rest) =>
      match skipBlanks rest with
      | ':' :: rest =>
        match value? fuel depth rest with
        | none => none
        | some (j, rest) =>
          match skipBlanks rest with
          | ',' :: rest =>
            (members? fuel depth rest).map fun (members, rest) => ((name, j) :: members, rest)
          | '\x7d' :: rest => some ([(name, j)], rest)
          | _ => none
      | _ => none

end

/-- The document that a whole text is. -/
def ofChars? (cs : List Char) : Option Json :=
  match value? (2 * cs.length + 2) greatestDepth cs with
  | some (j, rest) => if skipBlanks rest = [] then some j else none
  | none => none

/-- The document that a whole text is. -/
def ofText? (s : String) : Option Json :=
  ofChars? s.toList

end Json

end Formula
