import Formula.Double.Basic

set_option autoImplicit false

/-!
# Arithmetic on binary64 numbers

Each operation computes the exact result on significands and exponents and rounds once. A NaN
operand is passed on, the left one first; an operation that has no result gives
`Double.invalid`. Powers and logarithms are those of the platform.
-/

namespace Formula.Double

/-- The number with the other sign. -/
def neg (x : Double) : Double :=
  ⟨x.bits ^^^ 0x8000000000000000⟩

/-- The number without its sign. -/
def abs (x : Double) : Double :=
  ⟨x.bits &&& 0x7fffffffffffffff⟩

/-- The signed significand. -/
def signedSignificand (x : Double) : Int :=
  if x.isNegative then -(x.significand : Int) else x.significand

/-- The sum. An exact sum of zero is positive unless both operands are negative. -/
def add (x y : Double) : Double :=
  if x.isNaN then x.quiet
  else if y.isNaN then y.quiet
  else if x.isInfinite then
    if y.isInfinite && x.isNegative != y.isNegative then invalid else x
  else if y.isInfinite then y
  else
    let e := min x.exponent y.exponent
    let sum := x.signedSignificand * Nat.pow 2 (x.exponent - e).toNat
      + y.signedSignificand * Nat.pow 2 (y.exponent - e).toNat
    if sum = 0 then zero (x.isNegative && y.isNegative)
    else ofScaled (decide (sum < 0)) sum.natAbs e

/-- The difference. -/
def sub (x y : Double) : Double :=
  if x.isNaN then x.quiet else if y.isNaN then y.quiet else x.add y.neg

/-- The product. -/
def mul (x y : Double) : Double :=
  let negative := x.isNegative != y.isNegative
  if x.isNaN then x.quiet
  else if y.isNaN then y.quiet
  else if x.isInfinite || y.isInfinite then
    if x.isZero || y.isZero then invalid else infinity negative
  else ofScaled negative (x.significand * y.significand) (x.exponent + y.exponent)

/-- The quotient. -/
def div (x y : Double) : Double :=
  let negative := x.isNegative != y.isNegative
  if x.isNaN then x.quiet
  else if y.isNaN then y.quiet
  else if x.isInfinite then
    if y.isInfinite then invalid else infinity negative
  else if y.isInfinite then zero negative
  else if y.isZero then
    if x.isZero then invalid else infinity negative
  else ofRatio negative x.significand y.significand (x.exponent - y.exponent)

/-- The remainder of division toward zero. It is exact and has the sign of the dividend. -/
def rem (x y : Double) : Double :=
  if x.isNaN then x.quiet
  else if y.isNaN then y.quiet
  else if x.isInfinite || y.isZero then invalid
  else if y.isInfinite then x
  else
    let e := min x.exponent y.exponent
    let a := x.significand * Nat.pow 2 (x.exponent - e).toNat
    let b := y.significand * Nat.pow 2 (y.exponent - e).toNat
    ofScaled x.isNegative (a % b) e

/-! ## Rounding to integers -/

/-- The fraction of a finite number cut into a whole part and a remainder over `2 ^ k`, the whole
part chosen by `choose whole remainder k`. Sign, infinities and NaN are kept. -/
def toWhole (x : Double) (choose : Nat → Nat → Nat → Nat) : Double :=
  if x.isNaN then x.quiet
  else if x.isInfinite then x
  else if 0 ≤ x.exponent then x
  else
    let k := (-x.exponent).toNat
    ofScaled x.isNegative (choose (x.significand / Nat.pow 2 k) (x.significand % Nat.pow 2 k) k) 0

/-- Toward zero. -/
def trunc (x : Double) : Double :=
  x.toWhole fun whole _ _ => whole

/-- Toward negative infinity. -/
def floor (x : Double) : Double :=
  x.toWhole fun whole rest _ => if x.isNegative && rest != 0 then whole + 1 else whole

/-- Toward positive infinity. -/
def ceil (x : Double) : Double :=
  x.toWhole fun whole rest _ => if !x.isNegative && rest != 0 then whole + 1 else whole

/-- To the nearest integer, halves away from zero. -/
def round (x : Double) : Double :=
  x.toWhole fun whole rest k => if Nat.pow 2 k ≤ 2 * rest then whole + 1 else whole

/-! ## Roots, powers, logarithms -/

/-- The integer part of a square root below `2 ^ 64`: bits are tried from the highest down. -/
def wholeRoot (n : Nat) : Nat :=
  (List.range 64).reverse.foldl
    (fun root i =>
      let more := root + Nat.pow 2 i
      if more * more ≤ n then more else root) 0

/-- The square root. -/
def sqrt (x : Double) : Double :=
  if x.isNaN then x.quiet
  else if x.isZero then x
  else if x.isNegative then invalid
  else if x.isInfinite then x
  else
    let shift := 112 - x.significand.log2
    let shift := if (x.exponent - shift) % 2 = 0 then shift else shift + 1
    let scaled := x.significand * Nat.pow 2 shift
    let root := wholeRoot scaled
    ofScaled false (2 * root + if root * root = scaled then 0 else 1)
      ((x.exponent - shift) / 2 - 1)

/-- A NaN among the operands, else the NaN of an operation without a result. -/
def nanOf (x y : Double) : Double :=
  if x.isNaN then x.quiet else if y.isNaN then y.quiet else invalid

/-- The power. -/
def pow (x y : Double) : Double :=
  let result : Double := ⟨(Float.pow (Float.ofBits x.bits) (Float.ofBits y.bits)).toBits⟩
  if result.isNaN then nanOf x y else result

/-- The natural logarithm. -/
def log (x : Double) : Double :=
  let result : Double := ⟨(Float.log (Float.ofBits x.bits)).toBits⟩
  if result.isNaN then nanOf x x else result

/-! ## Extrema -/

/-- The smaller number. A NaN gives way to the other operand; of equal numbers the left one stays. -/
def min (x y : Double) : Double :=
  if x.isNaN then y else if y.lt x then y else x

/-- The larger number. A NaN gives way to the other operand; of equal numbers the left one stays. -/
def max (x y : Double) : Double :=
  if x.isNaN then y else if x.lt y then y else x

end Formula.Double
