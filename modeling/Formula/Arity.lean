set_option autoImplicit false

/-!
# How many arguments a function takes

## Main definitions

* `Formula.Arity` — a condition on the number of arguments.
* `Formula.Arity.accepts` — whether a number meets it.
* `Formula.Arity.text` — how messages describe it.
-/

namespace Formula

/-- A condition on the number of arguments. -/
inductive Arity where
  /-- Any number. -/
  | any
  /-- Exactly `n`. -/
  | fixed (n : Nat)
  /-- At least `least` and, if a bound is given, at most that many. -/
  | range (least : Nat) (most : Option Nat)
deriving DecidableEq, Repr

namespace Arity

/-- Whether a number of arguments is accepted. -/
def accepts (arity : Arity) (n : Nat) : Bool :=
  match arity with
  | any => true
  | fixed m => n == m
  | range least most => decide (least ≤ n) && most.all fun m => decide (n ≤ m)

/-- The description in messages. -/
def text (arity : Arity) : String :=
  match arity with
  | any => "any number of"
  | fixed n => Nat.repr n
  | range least none => "at least " ++ Nat.repr least
  | range least (some most) =>
    if least = most then Nat.repr least else Nat.repr least ++ " to " ++ Nat.repr most

end Arity

end Formula
