import Formula.Decimal.Reading
import Formula.EvalError
import Formula.Text.Blank
import Formula.Value.Basic

set_option autoImplicit false

/-!
# Values as numbers

Booleans and texts that denote numbers are taken for numbers where a number is needed.

## Main definitions

* `Formula.Value.number?`, `Formula.Value.toNumber` — the number of a value.
* `Formula.Value.toInteger` — the same for whole numbers of at most 64 bits.
* `Formula.Value.compare?` — the comparison of `<` and `>`.
-/

namespace Formula

namespace Value

/-- The number of a value: itself, 1 and 0 for the booleans, or what a text denotes between blanks. -/
def number? (v : Value) : Option Double :=
  match v with
  | .number x => some x
  | .bool b => some (Double.ofNat b.toNat)
  | .string s => Double.ofChars? (Text.trim s.toList)
  | _ => none

/-- What a message calls a value that is not a number. -/
def nonNumber (v : Value) : String :=
  match v with
  | .string _ => "non-numeric string"
  | v => v.typeName

/-- The number of a value, for an operation. -/
def toNumber (v : Value) (operation : String) : Except EvalError Double :=
  match v.number? with
  | some x => .ok x
  | none => .error (.typeMismatch operation "number" v.nonNumber)

/-- The greatest signed integer of 64 bits. -/
def greatestInteger : Int :=
  0x7fffffffffffffff

/-- The integer a number stands for: it has to be whole and at most `2 ^ 63` in absolute value, and
`2 ^ 63` itself stands for the greatest integer. -/
def integerOf? (x : Double) : Option Int :=
  match x.toInt? with
  | some i => if i.natAbs ≤ 0x8000000000000000 then some (min i greatestInteger) else none
  | none => none

/-- The integer of a value, for an operation. -/
def toInteger (v : Value) (operation : String) : Except EvalError Int := do
  match integerOf? (← v.toNumber operation) with
  | some i => .ok i
  | none => .error (.typeMismatch operation "integer" "fractional number")

/-- The comparison of two values: of one kind as that kind compares, and otherwise as numbers. -/
def compare? (v w : Value) : Option Ordering :=
  match v, w with
  | .number x, .number y => x.compare? y
  | .string s, .string t => some (Ord.compare s t)
  | .timestamp t, .timestamp u => some (t.compare u)
  | .bool a, .bool b => some (Ord.compare a b)
  | v, w =>
    match v.number?, w.number? with
    | some x, some y => x.compare? y
    | _, _ => none

end Value

end Formula
