import Formula.Double.Arithmetic
import Formula.Expr.Basic
import Formula.Text.Search
import Formula.Value.Coercion
import Formula.Value.Text

set_option autoImplicit false

/-!
# Operators on values

## Main definitions

* `Formula.UnaryOperator.apply` — an operator in front of a value.
* `Formula.BinaryOperator.apply` — an operator between two values.
* `Formula.Value.subject` — the text that a value shows to a pattern.
-/

namespace Formula

namespace Value

/-! ## Whole numbers of 64 bits -/

/-- The two's complement of an integer. -/
def word (i : Int) : BitVec 64 :=
  BitVec.ofInt 64 i

/-- An operation on two's complements. -/
def onWords (f : BitVec 64 → BitVec 64 → BitVec 64) (i j : Int) : Except EvalError Int :=
  .ok (f (word i) (word j)).toInt

/-- A shift by an amount from `0` to `63`. -/
def shiftBy (f : BitVec 64 → Nat → BitVec 64) (i amount : Int) : Except EvalError Int :=
  if 0 ≤ amount ∧ amount < 64 then .ok (f (word i) amount.toNat).toInt
  else .error (.function "shift" (.shiftOutOfRange amount))

/-! ## Operands -/

/-- An operation on two numbers. The left operand is the first to be refused. -/
def onNumbers (symbol : String) (f : Double → Double → Except EvalError Double) (v w : Value) :
    Except EvalError Value := do
  let x ← v.toNumber symbol
  let y ← w.toNumber symbol
  return .number (← f x y)

/-- An operation on two whole numbers. The left operand is the first to be refused. -/
def onIntegers (symbol : String) (f : Int → Int → Except EvalError Int) (v w : Value) :
    Except EvalError Value := do
  let i ← v.toInteger symbol
  let j ← w.toInteger symbol
  return ofInt (← f i j)

/-- A division, which a zero divisor has no part in. -/
def unlessZero (f : Double → Double → Double) (x y : Double) : Except EvalError Double :=
  if y.isZero then .error .divisionByZero else .ok (f x y)

/-- The sum. A text takes texts, numbers and booleans on either side as they are shown, arrays are
joined, and of two maps the second has the last word. -/
def add (v w : Value) : Except EvalError Value :=
  match v, w with
  | .string s, .string _ | .string s, .number _ | .string s, .bool _ =>
    .ok (.string (s ++ w.display))
  | .number _, .string t | .bool _, .string t => .ok (.string (v.display ++ t))
  | .array items, .array others => .ok (.array (items ++ others))
  | .map fields, .map others => .ok (.map (Record.union fields others))
  | v, w => onNumbers Symbol.plus.text (fun x y => .ok (x.add y)) v w

/-- The difference. Between timestamps it is a number of seconds. -/
def sub (v w : Value) : Except EvalError Value :=
  match v, w with
  | .timestamp t, .timestamp u =>
    .ok (.number ((Double.ofInt (t.millisSince u)).div (Double.ofNat 1000)))
  | v, w => onNumbers Symbol.minus.text (fun x y => .ok (x.sub y)) v w

/-- Whether a value is a number that is not a number. -/
def isNaN (v : Value) : Bool :=
  match v with
  | .number x => x.isNaN
  | _ => false

/-- An order of two values. A number that is not a number stands in no order to anything; other
values that cannot be compared are refused. -/
def order (symbol : String) (holds : Ordering → Bool) (v w : Value) : Except EvalError Value :=
  match v.compare? w with
  | some o => .ok (.bool (holds o))
  | none =>
    if v.isNaN || w.isNaN then .ok (.bool false)
    else .error (.typeMismatch symbol v.typeName w.typeName)

/-- Whether a value is an item of an array, a key of a map, or stands within a text. -/
def isIn (v container : Value) : Except EvalError Bool :=
  match container with
  | .array items => .ok (v.memberOf items)
  | .map fields =>
    match v with
    | .string key => .ok (Record.contains fields key)
    | v => .error (.typeMismatch Symbol.wordIn.text "string" v.typeName)
  | .string s =>
    match v with
    | .string part => .ok (Text.occursIn part.toList s.toList)
    | .number x => .ok (Text.occursIn x.display.toList s.toList)
    | v => .error (.typeMismatch Symbol.wordIn.text "string" v.typeName)
  | container => .error (.typeMismatch Symbol.wordIn.text "array, map or string" container.typeName)

/-- The text that a value shows to a pattern. -/
def subject (v : Value) (operation : String) : Except EvalError String :=
  match v with
  | .string s => .ok s
  | .number _ | .bool _ | .timestamp _ => .ok v.display
  | .null | .array _ | .map _ => .error (.typeMismatch operation "string" v.typeName)

end Value

/-- The value of an operator in front of a value. -/
def UnaryOperator.apply (op : UnaryOperator) (v : Value) : Except EvalError Value :=
  match op with
  | .not => .ok (.bool v.isEmpty)
  | .negate => do return .number (← v.toNumber Symbol.minus.text).neg
  | .plus => do return .number (← v.toNumber Symbol.plus.text)
  | .bitNot => do return .ofInt (~~~Value.word (← v.toInteger Symbol.bitNot.text)).toInt

/-- The value of an operator between two values. -/
def BinaryOperator.apply (op : BinaryOperator) (v w : Value) : Except EvalError Value :=
  let symbol := op.symbol.text
  match op with
  | .add => v.add w
  | .sub => v.sub w
  | .mul => v.onNumbers symbol (fun x y => .ok (x.mul y)) w
  | .div => v.onNumbers symbol (Value.unlessZero Double.div) w
  | .rem => v.onNumbers symbol (Value.unlessZero Double.rem) w
  | .pow => v.onNumbers symbol (fun x y => .ok (x.pow y)) w
  | .eq => .ok (.bool (v.eq w))
  | .ne => .ok (.bool !(v.eq w))
  | .lt => v.order symbol Ordering.isLT w
  | .le => v.order symbol Ordering.isLE w
  | .gt => v.order symbol Ordering.isGT w
  | .ge => v.order symbol Ordering.isGE w
  | .isIn => do return .bool (← v.isIn w)
  | .bitAnd => v.onIntegers symbol (Value.onWords (· &&& ·)) w
  | .bitOr => v.onIntegers symbol (Value.onWords (· ||| ·)) w
  | .bitXor => v.onIntegers symbol (Value.onWords (· ^^^ ·)) w
  | .shiftLeft => v.onIntegers symbol (Value.shiftBy BitVec.shiftLeft) w
  | .shiftRight => v.onIntegers symbol (Value.shiftBy BitVec.sshiftRight) w

end Formula
