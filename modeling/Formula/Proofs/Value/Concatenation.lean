import Formula.Evaluation.Operator
import Mathlib.Tactic.Lemma

set_option autoImplicit false

/-!
# Texts and `+`

A text is joined with texts, numbers and booleans, as they are shown. Beside values of the other kinds
`+` is the sum of numbers, which these values are not.

## Main definitions

* `Formula.Value.joinedKinds` — the kinds that are joined with a text.

## Main results

* `Formula.Value.add_text` — what `+` does beside a text.
-/

namespace Formula.Value

variable {v w : Value} {symbol : String} {f : Double → Double → Except EvalError Double}

/-- The kinds of values that `+` joins with a text. -/
def joinedKinds : List String :=
  ["string", "number", "boolean"]

/-- Values of the other kinds are taken for no numbers, and a message calls them by their kinds. -/
lemma number?_of_not_mem_joinedKinds (h : v.typeName ∉ joinedKinds) :
    v.number? = none ∧ v.nonNumber = v.typeName := by
  cases v with
  | string | number | bool => simp [typeName, joinedKinds] at h
  | null | array | map | timestamp => exact ⟨rfl, rfl⟩

/-- An operation on numbers refuses its left operand first. -/
lemma onNumbers_left (h : v.number? = none) :
    v.onNumbers symbol f w = .error (.typeMismatch symbol "number" v.nonNumber) := by
  simp [onNumbers, toNumber, h, bind, Except.bind]

/-- An operand on the right that is no number is refused for its kind. -/
lemma onNumbers_right {x : Double} (hv : v.number? = some x) (hw : w.number? = none) :
    v.onNumbers symbol f w = .error (.typeMismatch symbol "number" w.nonNumber) := by
  simp [onNumbers, toNumber, hv, hw, bind, Except.bind]

/-- A text is joined with a value of such a kind, whichever stands first. -/
lemma add_of_mem_joinedKinds (s : String) (h : v.typeName ∈ joinedKinds) :
    (string s).add v = .ok (.string (s ++ v.display)) ∧
      v.add (string s) = .ok (.string (v.display ++ s)) := by
  cases v with
  | string | number | bool => exact ⟨rfl, rfl⟩
  | null | array | map | timestamp => simp [typeName, joinedKinds] at h

/-- Beside a value of any other kind, `+` is a sum of numbers. -/
lemma add_of_not_mem_joinedKinds (s : String) (h : v.typeName ∉ joinedKinds) :
    (string s).add v = (string s).onNumbers "+" (fun x y => .ok (x.add y)) v ∧
      v.add (string s) = v.onNumbers "+" (fun x y => .ok (x.add y)) (string s) := by
  cases v with
  | string | number | bool => simp [typeName, joinedKinds] at h
  | null | array | map | timestamp => exact ⟨rfl, rfl⟩

/-- **A text is joined with texts, numbers and booleans only.**

1. A text and a value of one of these kinds are joined, in the order in which they stand, as they are
   shown.
2. Beside a value of any other kind, `+` fails for every text. The failure says what is no number: the
   operand in front, or if that is a text that denotes a number, the other one.

**Proof sketch.** Behind the kinds that are joined comes the sum of numbers. None of the other kinds has
numbers, and the operand in front is looked at first. -/
theorem add_text (s : String) (v : Value) :
    (v.typeName ∈ joinedKinds →
      BinaryOperator.add.apply (.string s) v = .ok (.string (s ++ v.display)) ∧
      BinaryOperator.add.apply v (.string s) = .ok (.string (v.display ++ s))) ∧
    (v.typeName ∉ joinedKinds →
      BinaryOperator.add.apply (.string s) v = .error (.typeMismatch "+" "number"
        (if (string s).number? = none then "non-numeric string" else v.typeName)) ∧
      BinaryOperator.add.apply v (.string s) = .error (.typeMismatch "+" "number" v.typeName)) := by
  refine ⟨add_of_mem_joinedKinds s, fun h => ?_⟩
  obtain ⟨hfirst, hsecond⟩ := add_of_not_mem_joinedKinds s h
  obtain ⟨hnone, hname⟩ := number?_of_not_mem_joinedKinds h
  constructor
  · refine hfirst.trans ?_
    cases hs : (string s).number? with
    | none => exact onNumbers_left hs
    | some x => exact (onNumbers_right hs hnone).trans (by rw [hname, if_neg (by simp)])
  · rw [← hname]
    exact hsecond.trans (onNumbers_left hnone)

/-- A number is joined behind a text. A text that denotes a number is not what fails beside null. -/
theorem add_text_number :
    BinaryOperator.add.apply (string "n = ") (number (Double.ofInt (-2))) = .ok (.string "n = -2") ∧
    BinaryOperator.add.apply (string "1") null = .error (.typeMismatch "+" "number" "null") :=
  ⟨((add_text "n = " (number (Double.ofInt (-2)))).1 (by decide)).1,
    ((add_text "1" null).2 (by decide)).1⟩

/-- It is not so that a text is joined with every value: beside null it is refused for not being a
number. -/
theorem add_null_to_text :
    BinaryOperator.add.apply (string "a") null =
      .error (.typeMismatch "+" "number" "non-numeric string") ∧
    BinaryOperator.add.apply (string "a") null ≠ .ok (.string ("a" ++ null.display)) := by
  have hrefused : BinaryOperator.add.apply (string "a") null =
      .error (.typeMismatch "+" "number" "non-numeric string") := rfl
  rw [hrefused]
  exact ⟨rfl, nofun⟩

end Formula.Value
