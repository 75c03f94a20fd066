import Formula.Decimal.Reading
import Formula.Decimal.Style
import Mathlib.Tactic.Lemma

set_option autoImplicit false

/-!
# Decimal digits of natural numbers

## Main results

* `Formula.Decimal.ofDigitChars_digitChars` — the digits of a number are read as the number.
* `Formula.Decimal.head?_digitChars` — only zero is written with a leading zero.
-/

namespace Formula.Decimal

variable {n : Nat}

/-- A natural is written with digits. -/
lemma isDigit_of_mem_digitChars {c : Char} (h : c ∈ digitChars n) : c.isDigit = true :=
  Nat.isDigit_of_mem_toDigits (by decide) (by decide) h

/-- A natural is written with at least one digit. -/
lemma digitChars_ne_nil : digitChars n ≠ [] :=
  Nat.toDigits_ne_nil

/-- Digits are read as the library reads them. -/
lemma ofDigitChars_eq (cs : List Char) : ofDigitChars cs = Nat.ofDigitChars 10 cs 0 := by
  simp only [ofDigitChars, Nat.ofDigitChars_eq_foldl, digitValue, Nat.mul_comm]

/-- The digits of a number are read as the number. -/
lemma ofDigitChars_digitChars (n : Nat) : ofDigitChars (digitChars n) = n := by
  rw [ofDigitChars_eq]
  exact Nat.ofDigitChars_toDigits (by decide) (by decide)

/-- Only zero is written as the digit zero. -/
lemma eq_zero_of_digitChar : ∀ n < 10, n.digitChar = '0' → n = 0 := by
  decide

/-- Only zero is written with a leading zero.

**Proof sketch.** Strong induction. The first digit is that of the tenth, unless there is only one. -/
lemma head?_digitChars (h : (digitChars n).head? = some '0') : n = 0 := by
  induction n using Nat.strongRecOn with
  | _ n ih =>
    by_cases hlt : n < 10
    · rw [digitChars, Nat.toDigits_of_lt_base hlt, List.head?_cons, Option.some_inj] at h
      exact eq_zero_of_digitChar n hlt h
    · rw [digitChars, Nat.toDigits_of_base_le (by decide) (Nat.not_lt.mp hlt),
        List.head?_append, Option.or_eq_left_of_isSome (by simp [Nat.toDigits_ne_nil])] at h
      have hdiv : n / 10 = 0 := ih (n / 10) (by omega) h
      omega

end Formula.Decimal
