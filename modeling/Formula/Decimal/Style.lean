import Formula.Decimal.Basic

set_option autoImplicit false

/-!
# How numbers are written

Three notations share the digits of `Formula.Decimal.shortest`: plain notation for values on their
own and in messages, the notation of JSON texts, and notation with a fixed count of places.

## Main definitions

* `Formula.Double.text` — plain notation, never with an exponent.
* `Formula.Double.display` — plain notation in which whole numbers of moderate size are integers,
  so that negative zero has no sign.
* `Formula.Double.jsonText?` — JSON notation, or nothing for numbers that JSON does not have.
* `Formula.Double.fixedText` — a fixed count of places.
-/

namespace Formula

namespace Decimal

/-- The digits of a natural number, most significant first. -/
def digitChars (n : Nat) : List Char :=
  Nat.toDigits 10 n

/-- `n` zeros. -/
def zeros (n : Nat) : List Char :=
  List.replicate n '0'

/-- The decimal written out with its point, if it has one. -/
def positional (d : Decimal) : List Char :=
  let ds := digitChars d.digits
  if 0 ≤ d.exponent then ds ++ zeros d.exponent.toNat
  else
    let places := (-d.exponent).toNat
    if places < ds.length then
      ds.take (ds.length - places) ++ '.' :: ds.drop (ds.length - places)
    else '0' :: '.' :: (zeros (places - ds.length) ++ ds)

/-- The power of ten of the leading digit. -/
def leadingExponent (d : Decimal) : Int :=
  (digitChars d.digits).length - 1 + d.exponent

/-- One digit before the point, the others behind it, and the power of ten with its sign. -/
def scientific (d : Decimal) : List Char :=
  let e := d.leadingExponent
  let mantissa := match digitChars d.digits with
    | [] => []
    | [c] => [c]
    | c :: rest => c :: '.' :: rest
  mantissa ++ 'e' :: (if e < 0 then '-' else '+') :: digitChars e.natAbs

end Decimal

/-- How shortest digits are laid out. -/
structure Style where
  /-- Which of two equally near decimals is written. -/
  tie : Tie
  /-- The least exponent of the leading digit that is written without an exponent. -/
  plainFrom : Option Int
  /-- The greatest exponent of the leading digit that is written without an exponent. -/
  plainTo : Option Int
  /-- Whether whole numbers end in `.0`. -/
  pointZero : Bool

namespace Style

/-- Plain notation: every digit is written, whatever the exponent. Equally near digits go up. -/
def plain : Style :=
  ⟨.up, none, none, false⟩

/-- JSON notation: an exponent outside `-5 … 15`, a point in every plain number. Equally near digits
go to the even one. -/
def json : Style :=
  ⟨.even, some (-5), some 15, true⟩

/-- Whether a leading exponent is written without an exponent part. -/
def isPlain (style : Style) (e : Int) : Bool :=
  (style.plainFrom.all fun least => decide (least ≤ e)) &&
    style.plainTo.all fun most => decide (e ≤ most)

/-- A finite number other than zero in the given notation, without its sign. -/
def write (style : Style) (x : Double) : List Char :=
  let d := Decimal.shortest style.tie x
  if style.isPlain d.leadingExponent then
    d.positional ++ if style.pointZero && decide (0 ≤ d.exponent) then ['.', '0'] else []
  else d.scientific

end Style

namespace Double

/-- A minus sign where one is due. -/
def signChars (negative : Bool) : List Char :=
  if negative then ['-'] else []

/-- Decimal digits of an integer. -/
def intText (i : Int) : String :=
  String.ofList (signChars (decide (i < 0)) ++ Decimal.digitChars i.natAbs)

/-- Plain notation with the sign of zero, as messages write numbers. -/
def text (x : Double) : String :=
  if x.isNaN then "NaN"
  else String.ofList <| signChars x.isNegative ++
    if x.isInfinite then "inf".toList
    else if x.isZero then ['0']
    else Style.plain.write x

/-- The integer a number is equal to, if it is one with absolute value below `bound`. -/
def intBelow? (bound : Nat) (x : Double) : Option Int :=
  x.toInt?.filter fun i => decide (i.natAbs < bound)

/-- Plain notation in which whole numbers below `10 ^ 15` are integers. -/
def display (x : Double) : String :=
  match x.intBelow? 1000000000000000 with
  | some i => intText i
  | none => x.text

/-- JSON notation with a point or an exponent, of a finite number. -/
def pointText (x : Double) : String :=
  String.ofList <| signChars x.isNegative ++
    if x.isZero then "0.0".toList else Style.json.write x

/-- JSON notation of finite numbers: whole numbers below `2 ^ 53` are integers, others have a point or
an exponent. -/
def jsonText? (x : Double) : Option String :=
  if x.isFinite then
    match x.intBelow? 0x20000000000000 with
    | some i => some (intText i)
    | none => some x.pointText
  else none

/-- A fixed count of places after the point. -/
def fixedText (places : Nat) (x : Double) : String :=
  if x.isNaN then "NaN"
  else String.ofList <| signChars x.isNegative ++
    if x.isInfinite then "inf".toList
    else
      let d := Decimal.ofPlaces places x
      if places = 0 then Decimal.digitChars d.digits else d.positional

end Double

end Formula
