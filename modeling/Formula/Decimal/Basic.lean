import Formula.Double.Basic

set_option autoImplicit false

/-!
# Decimals

A decimal is `digits * 10 ^ exponent`. This module rounds decimals to binary64 numbers and finds
the shortest decimal that rounds to a given number.

## Main definitions

* `Formula.Decimal.toDouble` — the nearest number.
* `Formula.Decimal.shortest` — the fewest digits that are read back as the number; of two such
  the nearer one.
* `Formula.Decimal.ofPlaces` — a number with a given count of decimal places.
-/

namespace Formula

/-- The value `digits * 10 ^ exponent`. -/
structure Decimal where
  digits : Nat
  exponent : Int
deriving DecidableEq, Repr

/-- Which of two equally near decimals is taken. -/
inductive Tie where
  /-- The one with an even last digit. -/
  | even
  /-- The larger one. -/
  | up
deriving DecidableEq

namespace Decimal

/-- The number nearest to a decimal, ties to the even significand. Exponents that decide the
result alone are not multiplied out: from `10 ^ 310` on every positive decimal is infinite, and
`digits < 2 ^ (log2 digits + 1)` leaves nothing of a decimal below `10 ^ -400`. -/
def toDouble (negative : Bool) (d : Decimal) : Double :=
  if d.digits = 0 then Double.zero negative
  else if 310 ≤ d.exponent then Double.infinity negative
  else if d.exponent < -(d.digits.log2 : Int) - 401 then Double.zero negative
  else Double.ofRatio negative (d.digits * Nat.pow 10 d.exponent.toNat) (Nat.pow 10 (-d.exponent).toNat) 0

/-- The decimal without trailing zero digits. -/
def strip (d : Decimal) : Decimal :=
  if h : d.digits ≠ 0 ∧ d.digits % 10 = 0 then strip ⟨d.digits / 10, d.exponent + 1⟩ else d
termination_by d.digits
decreasing_by omega

/-- The exact value of a finite number, without its sign. -/
def exact (x : Double) : Decimal :=
  if 0 ≤ x.exponent then ⟨x.significand * Nat.pow 2 x.exponent.toNat, 0⟩
  else ⟨x.significand * Nat.pow 5 (-x.exponent).toNat, x.exponent⟩

/-- The value `x / 10 ^ place` of a finite number as a numerator and a denominator. -/
def ratioAt (x : Double) (place : Int) : Nat × Nat :=
  (x.significand * Nat.pow 2 x.exponent.toNat * Nat.pow 10 (-place).toNat,
    Nat.pow 2 (-x.exponent).toNat * Nat.pow 10 place.toNat)

/-- The least `k` with `x < 10 ^ k`, for a finite number other than zero. The binary logarithm
leaves four candidates. -/
def scale (x : Double) : Int :=
  let estimate : Int := (x.significand.log2 + x.exponent) * 30103 / 100000
  let above (k : Int) : Bool :=
    let (n, d) := ratioAt x k
    decide (n < d)
  if above (estimate - 1) then estimate - 1
  else if above estimate then estimate
  else if above (estimate + 1) then estimate + 1
  else estimate + 2

/-- The neighbour of a number on the grid of multiples of `10 ^ place` that is read back as the
number. Of two such neighbours the nearer is taken, of equally near ones as `tie` says. -/
def onGrid? (tie : Tie) (x : Double) (place : Int) : Option Decimal :=
  let (n, d) := ratioAt x place
  let below : Decimal := ⟨n / d, place⟩
  let above : Decimal := ⟨n / d + 1, place⟩
  match below.toDouble false == x, above.toDouble false == x with
  | true, true =>
    let rest := 2 * (n % d)
    let takeBelow := decide (rest < d) || (decide (rest = d) && tie == .even && n / d % 2 == 0)
    some (if takeBelow then below else above)
  | true, false => some below
  | false, true => some above
  | false, false => none

/-- The shortest decimal that is read back as a finite number other than zero, without its sign.
Grids are tried from the coarsest on; seventeen digits always suffice, and the exact value stands
behind them. -/
def shortest (tie : Tie) (x : Double) : Decimal :=
  let x : Double := Double.ofMagnitude false x.magnitude
  let k := scale x
  let places : List Int := (List.range 17).map fun (n : Nat) => k - 1 - (n : Int)
  ((places.findSome? (onGrid? tie x)).getD (exact x)).strip

/-- The absolute value of a finite number in units of `10 ^ -places`, ties to even. -/
def ofPlaces (places : Nat) (x : Double) : Decimal :=
  let (n, d) := ratioAt x (-(places : Int))
  let q := n / d
  let rest := 2 * (n % d)
  ⟨if d < rest ∨ (rest = d ∧ q % 2 = 1) then q + 1 else q, -(places : Int)⟩

end Decimal

end Formula
