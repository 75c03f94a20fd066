set_option autoImplicit false

/-!
# Binary64 numbers

A number is its 64 bits. Everything else is read off the bits with natural number division, so
that order, equality and integrality are statements about naturals and integers.

## Main definitions

* `Formula.Double` — a binary64 number.
* `Formula.Double.significand`, `Formula.Double.exponent` — a finite number has absolute value
  `significand * 2 ^ exponent`.
* `Formula.Double.key`, `Formula.Double.totalKey` — integers that order numbers numerically, and
  totally with both zeros and all NaNs told apart.
* `Formula.Double.ofScaled`, `Formula.Double.ofRatio` — the number nearest to an exact value,
  ties to the even significand.
-/

namespace Formula

/-- A binary64 number, given by its bits. Equality of this type is equality of bits; `Double.eq`
is numerical equality. -/
structure Double where
  /-- Sign bit, eleven exponent bits, fifty-two fraction bits. -/
  bits : UInt64
deriving DecidableEq

namespace Double

/-! ## Fields -/

/-- The sign bit. -/
def isNegative (x : Double) : Bool :=
  decide (0x8000000000000000 ≤ x.bits.toNat)

/-- The bits below the sign. They grow with the absolute value. -/
def magnitude (x : Double) : Nat :=
  x.bits.toNat % 0x8000000000000000

/-- The biased exponent. -/
def exponentField (x : Double) : Nat :=
  x.magnitude / 0x10000000000000

/-- The stored part of the significand. -/
def fraction (x : Double) : Nat :=
  x.magnitude % 0x10000000000000

/-- The magnitude of infinity: all exponent bits set, no fraction. -/
def infiniteMagnitude : Nat :=
  0x7ff0000000000000

/-- Not a number. -/
def isNaN (x : Double) : Bool :=
  decide (infiniteMagnitude < x.magnitude)

/-- One of the two infinities. -/
def isInfinite (x : Double) : Bool :=
  decide (x.magnitude = infiniteMagnitude)

/-- Neither infinite nor NaN. -/
def isFinite (x : Double) : Bool :=
  decide (x.magnitude < infiniteMagnitude)

/-- One of the two zeros. -/
def isZero (x : Double) : Bool :=
  decide (x.magnitude = 0)

/-- The whole significand of a finite number, with the leading bit that normal numbers leave out. -/
def significand (x : Double) : Nat :=
  if x.exponentField = 0 then x.fraction else 0x10000000000000 + x.fraction

/-- The power of two that scales the significand of a finite number. -/
def exponent (x : Double) : Int :=
  if x.exponentField = 0 then -1074 else (x.exponentField : Int) - 1075

/-! ## Building -/

/-- The number with a sign and a magnitude below `2 ^ 63`. -/
def ofMagnitude (negative : Bool) (magnitude : Nat) : Double :=
  ⟨UInt64.ofNat (if negative then 0x8000000000000000 + magnitude else magnitude)⟩

/-- Zero with a sign. -/
def zero (negative : Bool) : Double :=
  ofMagnitude negative 0

/-- Infinity with a sign. -/
def infinity (negative : Bool) : Double :=
  ofMagnitude negative infiniteMagnitude

/-- The NaN that text denotes. -/
def nan : Double :=
  ⟨0x7ff8000000000000⟩

/-- The NaN that an operation without a result gives. Its sign bit is set, so it sorts before
every number. -/
def invalid : Double :=
  ⟨0xfff8000000000000⟩

/-- A NaN as an operation passes it on: the first fraction bit set, the rest kept. -/
def quiet (x : Double) : Double :=
  ⟨x.bits ||| 0x0008000000000000⟩

/-- `m / 2 ^ s` to the nearest natural number, ties to even. -/
def roundShift (m s : Nat) : Nat :=
  let q := m / Nat.pow 2 s
  let r := m % Nat.pow 2 s
  if Nat.pow 2 s < 2 * r ∨ (2 * r = Nat.pow 2 s ∧ q % 2 = 1) then q + 1 else q

/-- The number nearest to `m * 2 ^ e` with a sign, ties to the even significand, infinity from
half a unit above the largest finite number on.

The unit `2 ^ q` of the result is the least that leaves at most 53 bits and is not below the unit
of the subnormal numbers. A significand that rounds up to `2 ^ 53` carries into the exponent. -/
def ofScaled (negative : Bool) (m : Nat) (e : Int) : Double :=
  if m = 0 then zero negative
  else
    let q : Int := max (e + m.log2 - 52) (-1074)
    let r : Nat := if q ≤ e then m * Nat.pow 2 (e - q).toNat else roundShift m (q - e).toNat
    ofMagnitude negative (min ((q + 1074).toNat * 0x10000000000000 + r) infiniteMagnitude)

/-- The number nearest to `n / d * 2 ^ e` with a sign. The quotient is taken to at least 55 bits;
one more bit, set when something is left over, keeps ties apart from values just above them. -/
def ofRatio (negative : Bool) (n d : Nat) (e : Int) : Double :=
  if n = 0 then zero negative
  else
    let shift := d.log2 + 55 - n.log2
    let scaled := n * Nat.pow 2 shift
    ofScaled negative (2 * (scaled / d) + if scaled % d = 0 then 0 else 1) (e - shift - 1)

/-- The number nearest to an integer. -/
def ofInt (i : Int) : Double :=
  ofScaled (decide (i < 0)) i.natAbs 0

/-- The number nearest to a natural number. -/
def ofNat (n : Nat) : Double :=
  ofScaled false n 0

/-! ## Order -/

/-- The integer that orders numbers: both zeros have key `0`. -/
def key (x : Double) : Int :=
  if x.isNegative then -(x.magnitude : Int) else x.magnitude

/-- The integer that orders all bit patterns: negative ones by falling magnitude, then the others
by rising magnitude. -/
def totalKey (x : Double) : Int :=
  if x.isNegative then -(x.magnitude : Int) - 1 else x.magnitude

/-- Numerical comparison; a NaN compares with nothing. -/
def compare? (x y : Double) : Option Ordering :=
  if x.isNaN || y.isNaN then none else some (compare x.key y.key)

/-- Numerical equality: zeros are equal, a NaN equals nothing. -/
def eq (x y : Double) : Bool :=
  x.compare? y == some .eq

/-- Numerically less. -/
def lt (x y : Double) : Bool :=
  x.compare? y == some .lt

/-- The total order of bit patterns. -/
def totalCompare (x y : Double) : Ordering :=
  compare x.totalKey y.totalKey

/-! ## Integers -/

/-- The integer a finite number is equal to, if it is one. -/
def toInt? (x : Double) : Option Int :=
  if !x.isFinite then none
  else
    let sign : Int := if x.isNegative then -1 else 1
    let down := (-x.exponent).toNat
    if x.significand % Nat.pow 2 down = 0 then
      some (sign * ((x.significand / Nat.pow 2 down * Nat.pow 2 x.exponent.toNat : Nat) : Int))
    else none

/-- A finite number without a fraction. -/
def isIntegral (x : Double) : Bool :=
  x.toInt?.isSome

end Double

end Formula
