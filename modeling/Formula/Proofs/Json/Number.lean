import Formula.Json.Reading
import Formula.Proofs.Decimal.Digits
import Mathlib.Data.List.TakeWhile
import Mathlib.Tactic.Lemma

set_option autoImplicit false

/-!
# Numbers in JSON are read as far as they go

What follows a value in a document is no part of a number, so a number is read in the same way with
and without it. Integers are read back exactly.

## Main definitions

* `Formula.Json.Ends` — what may follow a value in an array or a map.

## Main results

* `Formula.Json.number?_append` — what follows a number does not change how it is read.
* `Formula.Json.number?_intText` — the digits of an integer are read as the integer.
-/

namespace Formula.Json

/-- What may follow a value in an array or a map, or nothing. -/
def Ends (rest : List Char) : Prop :=
  ∀ c ∈ rest.head?, c = ',' ∨ c = ']' ∨ c = '\x7d'

variable {rest : List Char}

/-- Nothing may follow a value. -/
lemma ends_nil : Ends [] := by
  intro c hc
  cases hc

/-- A comma and the closing symbols may follow a value. -/
lemma ends_cons {c : Char} (h : c = ',' ∨ c = ']' ∨ c = '\x7d') (rest : List Char) :
    Ends (c :: rest) := by
  rintro d ⟨⟩
  exact h

/-! ## Numbers and what follows them -/

/-- What may follow a value does not go on a row of digits.

**Proof sketch.** Induction on the text. Behind it comes nothing or one of three symbols, none of which
is a digit. -/
lemma Ends.takeWhile_isDigit (h : Ends rest) (cs : List Char) :
    (cs ++ rest).takeWhile Char.isDigit = cs.takeWhile Char.isDigit := by
  induction cs with
  | nil =>
    cases rest with
    | nil => rfl
    | cons c rest =>
      rcases h c rfl with rfl | rfl | rfl <;> rfl
  | cons c cs ih => simp only [List.cons_append, List.takeWhile_cons, ih]

/-- What may follow a value stays behind a row of digits that is dropped.

**Proof sketch.** Induction on the text, in the same way. -/
lemma Ends.dropWhile_isDigit (h : Ends rest) (cs : List Char) :
    (cs ++ rest).dropWhile Char.isDigit = cs.dropWhile Char.isDigit ++ rest := by
  induction cs with
  | nil =>
    cases rest with
    | nil => rfl
    | cons c rest =>
      rcases h c rfl with rfl | rfl | rfl <;> rfl
  | cons c cs ih =>
    simp only [List.cons_append, List.dropWhile_cons, ih]
    split <;> rfl

/-- What is read and the text after it, in front of further text. -/
def followedBy {α : Type} (rest : List Char) (read : α × List Char) : α × List Char :=
  (read.1, read.2 ++ rest)

/-- Nothing behind a text leaves it as it is. -/
lemma followedBy_nil {α : Type} : (followedBy [] : α × List Char → α × List Char) = id := by
  funext read
  rw [followedBy, List.append_nil, id]

/-- What may follow a value does not change how an exponent is read.

**Proof sketch.** The digits are the same in front of it (`takeWhile_isDigit`), and it is no sign.
Behind the letter comes a sign or none, which gives the cases. -/
lemma exponentPart?_append (h : Ends rest) (cs : List Char) :
    exponentPart? (cs ++ rest) =
      (exponentPart? cs).map fun (negative, digits, after) => (negative, digits, after ++ rest) := by
  have hdigits (negative : Bool) (cs : List Char) :
      (if (cs ++ rest).takeWhile Char.isDigit = [] then none
        else some (negative, (cs ++ rest).takeWhile Char.isDigit,
          (cs ++ rest).dropWhile Char.isDigit)) =
      (if cs.takeWhile Char.isDigit = [] then none
        else some (negative, cs.takeWhile Char.isDigit, cs.dropWhile Char.isDigit)).map
          fun (negative, digits, after) => (negative, digits, after ++ rest) := by
    rw [h.takeWhile_isDigit, h.dropWhile_isDigit]
    split <;> rfl
  cases cs with
  | nil =>
    cases rest with
    | nil => rfl
    | cons c rest =>
      rcases h c rfl with rfl | rfl | rfl <;> rfl
  | cons c cs =>
    by_cases hplus : c = '+'
    · subst hplus
      exact hdigits false cs
    · by_cases hminus : c = '-'
      · subst hminus
        exact hdigits true cs
      · simpa [exponentPart?, hplus, hminus] using hdigits false (c :: cs)

/-- What may follow a value does not change how a number with an exponent is read.

**Proof sketch.** It does not begin with the letter of an exponent, and an exponent is read alike
(`exponentPart?_append`). -/
lemma withExponent?_append (h : Ends rest) (significand : Nat) (exponent : Int) (cs : List Char) :
    withExponent? significand exponent (cs ++ rest) =
      (withExponent? significand exponent cs).map (followedBy rest) := by
  have hplain (cs : List Char) :
      (scaled? significand exponent).map (fun x => (x, cs ++ rest)) =
        ((scaled? significand exponent).map fun x => (x, cs)).map (followedBy rest) := by
    rw [Option.map_map]
    rfl
  cases cs with
  | nil =>
    cases rest with
    | nil => exact hplain []
    | cons c rest => rcases h c rfl with rfl | rfl | rfl <;> exact hplain []
  | cons c cs =>
    by_cases hc : c = 'e' ∨ c = 'E'
    · simp only [List.cons_append, withExponent?, hc, if_true]
      rw [exponentPart?_append h]
      cases exponentPart? cs with
      | none => rfl
      | some part =>
        obtain ⟨negative, digits, after⟩ := part
        simp only [Option.map_some, Option.bind_eq_bind, Option.bind_some]
        split
        · split <;> rfl
        · cases scaled? significand
            (if negative then exponent - (Decimal.ofDigitChars digits : Int)
              else exponent + (Decimal.ofDigitChars digits : Int)) <;> rfl
    · simp only [List.cons_append, withExponent?, hc, if_false]
      exact hplain (c :: cs)

/-- What is read as a fraction stays so in front of further text. -/
lemma map_real_followedBy (r : Option (Double × List Char)) :
    (r.map (followedBy rest)).map (fun (x, rest) => (JsonNumber.real x, rest)) =
      (r.map fun (x, rest) => (JsonNumber.real x, rest)).map (followedBy rest) := by
  cases r <;> rfl

/-- What may follow a value does not change how a number without a sign is read.

**Proof sketch.** The whole digits are the same, and it is neither a point nor the letter of an
exponent. Behind a point the places are the same, and what stands behind them is read alike
(`withExponent?_append`). -/
lemma unsigned?_append (h : Ends rest) (cs : List Char) :
    unsigned? (cs ++ rest) = (unsigned? cs).map (followedBy rest) := by
  unfold unsigned?
  rw [h.takeWhile_isDigit, h.dropWhile_isDigit]
  dsimp only
  generalize fitting 0 (cs.takeWhile Char.isDigit) = start
  obtain ⟨significand, excess⟩ := start
  have hreal := @map_real_followedBy rest
  split
  · rfl
  · cases cs.dropWhile Char.isDigit with
    | nil =>
      have happend := withExponent?_append h significand excess.length []
      rw [List.nil_append] at happend
      cases rest with
      | nil =>
        rw [followedBy_nil, Option.map_id]
        rfl
      | cons c rest =>
        have hc : c ≠ '.' ∧ c ≠ 'e' ∧ c ≠ 'E' := by
          rcases h c rfl with rfl | rfl | rfl <;> decide
        by_cases hexcess : excess = []
        · simp [hexcess, hc, followedBy]
        · simp [hexcess, hc, happend, hreal]
    | cons c more =>
      by_cases hpoint : c = '.'
      · subst hpoint
        simp only [List.cons_append]
        rw [h.takeWhile_isDigit, h.dropWhile_isDigit]
        split
        · rfl
        · rw [withExponent?_append h, hreal]
      · -- Without a point there is an exponent, or there are digits beyond the precision, or nothing is left.
        have happend := withExponent?_append h significand excess.length (c :: more)
        rw [List.cons_append] at happend
        by_cases hexponent : c = 'e' ∨ c = 'E' ∨ excess ≠ []
        · simp [hexponent, happend, hreal]
        · simp [hexponent, followedBy]

/-- What follows a number does not change how it is read.

**Proof sketch.** The sign in front is the same, and behind it a number without a sign is read alike
(`unsigned?_append`). -/
lemma number?_append (h : Ends rest) (cs : List Char) :
    number? (cs ++ rest) = (number? cs).map (followedBy rest) := by
  cases cs with
  | nil =>
    cases rest with
    | nil => rfl
    | cons c rest => rcases h c rfl with rfl | rfl | rfl <;> rfl
  | cons c cs =>
    by_cases hminus : c = '-'
    · subst hminus
      simp only [List.cons_append, number?]
      rw [unsigned?_append h, Option.map_map, Option.map_map]
      rfl
    · have happend := unsigned?_append h (c :: cs)
      rw [List.cons_append] at happend
      simpa [number?, hminus] using happend

/-! ## Integers -/

/-- More digits do not make a number smaller. -/
lemma le_foldl_digits (n : Nat) (cs : List Char) :
    n ≤ cs.foldl (fun n c => n * 10 + Decimal.digitValue c) n := by
  induction cs generalizing n with
  | nil => exact Nat.le_refl n
  | cons c cs ih =>
    rw [List.foldl_cons]
    exact Nat.le_trans (by omega) (ih (n * 10 + Decimal.digitValue c))

/-- Digits that make up a number that fits are all read. -/
lemma fitting_eq_foldl {n : Nat} {cs : List Char}
    (h : cs.foldl (fun n c => n * 10 + Decimal.digitValue c) n ≤ greatestSignificand) :
    fitting n cs = (cs.foldl (fun n c => n * 10 + Decimal.digitValue c) n, []) := by
  induction cs generalizing n with
  | nil => rfl
  | cons c cs ih =>
    rw [List.foldl_cons] at h ⊢
    rw [fitting, if_pos (Nat.le_trans (le_foldl_digits _ cs) h), ih h]

/-- The digits of a number are read as the number, if it is within 64 bits.

**Proof sketch.** The digits are all taken, none of them is one too many, and no zero stands in front of
others. -/
lemma unsigned?_digitChars {n : Nat} (h : n ≤ greatestSignificand) :
    unsigned? (Decimal.digitChars n) = some (.int n, []) := by
  have hdigits : ∀ c ∈ Decimal.digitChars n, c.isDigit = true :=
    fun _ => Decimal.isDigit_of_mem_digitChars
  have hvalue := Decimal.ofDigitChars_digitChars n
  have hfitting : fitting 0 (Decimal.digitChars n) = (n, []) := by
    rw [fitting_eq_foldl (hvalue.trans_le h)]
    exact congrArg (·, []) hvalue
  have hzero : ¬((Decimal.digitChars n).head? = some '0' ∧ 1 < (Decimal.digitChars n).length) := by
    rintro ⟨hhead, hlength⟩
    rw [Decimal.head?_digitChars hhead] at hlength
    exact absurd hlength (by decide)
  unfold unsigned?
  rw [List.takeWhile_eq_self_iff.mpr hdigits, List.dropWhile_eq_nil_iff.mpr hdigits]
  simp only [hfitting]
  rw [if_neg (not_or.mpr ⟨Decimal.digitChars_ne_nil, hzero⟩)]
  rfl

/-- The digits of an integer are read as the integer, if it has at most 63 bits.

**Proof sketch.** Behind the sign the digits are read (`unsigned?_digitChars`). Without a sign the first
character is a digit, which is no minus. -/
lemma number?_intText {i : Int} (h : i.natAbs ≤ 0x8000000000000000) :
    number? (Double.intText i).toList = some (.int i, []) := by
  have hunsigned := unsigned?_digitChars
    (Nat.le_trans h (show 0x8000000000000000 ≤ greatestSignificand by decide))
  unfold Double.intText
  rw [String.toList_ofList]
  by_cases hneg : i < 0
  · simp only [hneg, decide_true, Double.signChars, if_true, List.cons_append, List.nil_append,
      number?]
    rw [hunsigned, Option.map_some, negate, if_pos (by omega),
      show -(i.natAbs : Int) = i by omega]
  · simp only [hneg, decide_false, Double.signChars, Bool.false_eq_true, if_false,
      List.nil_append]
    rw [number?, hunsigned, show (i.natAbs : Int) = i by omega]
    intro rest hminus
    have hdigit : '-'.isDigit = true :=
      Decimal.isDigit_of_mem_digitChars (n := i.natAbs) (hminus ▸ List.mem_cons_self)
    exact absurd hdigit (by decide)

end Formula.Json
