import Formula.Builtin.Argument
import Formula.Double.Arithmetic
import Formula.Language.Basic

set_option autoImplicit false

/-!
# Functions on numbers

Texts and booleans are taken for numbers, as operators take them.
-/

namespace Formula.Builtin.Numbers

/-- The numbers among which an extremum is looked for: the items of a single array, or the arguments. -/
def numbers (name : String) (args : List Value) : Except EvalError (List Double) :=
  let items := match args with
    | [.array items] => items
    | args => args
  if items.isEmpty then .error (.function name .noValues)
  else items.mapM fun v => v.toNumber name

/-- The smallest number. -/
def min (args : List Value) : Except EvalError Value := do
  return .number ((← numbers "min" args).foldl Double.min (.infinity false))

/-- The largest number. -/
def max (args : List Value) : Except EvalError Value := do
  return .number ((← numbers "max" args).foldl Double.max (.infinity true))

/-- The number of decimal places that rounding keeps to. -/
def greatestPlaces : Nat := 15

/-- The power of ten with an exponent of at most `greatestPlaces` in absolute value, farther ones being
drawn in. -/
def scaleOf (places : Int) : Double :=
  let power := Double.ofNat (Nat.pow 10 (Nat.min places.natAbs greatestPlaces))
  if places < 0 then (Double.ofNat 1).div power else power

/-- A number to so many decimal places, halves away from zero. -/
def round (args : List Value) : Except EvalError Value := do
  let x ← Argument.number "round" args 0
  let places ← Argument.orElse Argument.integer 0 "round" args 1
  let scale := scaleOf places
  return .number ((x.mul scale).round.div scale)

/-- The greatest whole number below or at a number. -/
def floor (args : List Value) : Except EvalError Value := do
  return .number (← Argument.number "floor" args 0).floor

/-- The least whole number above or at a number. -/
def ceil (args : List Value) : Except EvalError Value := do
  return .number (← Argument.number "ceil" args 0).ceil

/-- The absolute value. -/
def abs (args : List Value) : Except EvalError Value := do
  return .number (← Argument.number "abs" args 0).abs

/-- A power. -/
def pow (args : List Value) : Except EvalError Value := do
  let x ← Argument.number "pow" args 0
  let y ← Argument.number "pow" args 1
  return .number (x.pow y)

/-- The square root of a number that is not negative. -/
def sqrt (args : List Value) : Except EvalError Value := do
  let x ← Argument.number "sqrt" args 0
  if x.lt (.zero false) then throw (.function "sqrt" .negativeArgument)
  return .number x.sqrt

/-- Whether a number is zero or less. -/
def notPositive (x : Double) : Bool :=
  x.lt (.zero false) || x.isZero

/-- The logarithm of a positive number, natural unless a base is given. -/
def log (args : List Value) : Except EvalError Value := do
  let x ← Argument.number "log" args 0
  if notPositive x then throw (.function "log" .argumentNotPositive)
  match args[1]? with
  | none => return .number x.log
  | some _ =>
    let base ← Argument.number "log" args 1
    if notPositive base || base.eq (.ofNat 1) then throw (.function "log" (.invalidBase base))
    return .number (x.log.div base.log)

/-- A finite number without its fraction. -/
def int (args : List Value) : Except EvalError Value := do
  let x ← Argument.number "int" args 0
  if x.isFinite then return .number x.trunc
  throw (.function "int" (.noInteger x))

/-- The number that a value is taken for. -/
def float (args : List Value) : Except EvalError Value := do
  return .number (← Argument.number "float" args 0)

/-- The functions on numbers. -/
def library : Library where
  category := "numeric"
  definitions := [
    .plain "min" (.range 1 none) min,
    .plain "max" (.range 1 none) max,
    .plain "round" (.range 1 (some 2)) round,
    .plain "floor" (.fixed 1) floor,
    .plain "ceil" (.fixed 1) ceil,
    .plain "abs" (.fixed 1) abs,
    .plain "pow" (.fixed 2) pow,
    .plain "sqrt" (.fixed 1) sqrt,
    .plain "log" (.range 1 (some 2)) log,
    .plain "int" (.fixed 1) int,
    .plain "float" (.fixed 1) float]

end Formula.Builtin.Numbers
