import Formula.Proofs.Decimal.Digits
import Formula.Proofs.Decimal.Rounding
import Mathlib.Data.List.TakeWhile

set_option autoImplicit false

/-!
# Plain notation is read back

A decimal in plain notation has digits in front of the point, and decimal places behind it if there is a
point. Reading it gives back the decimal, but for the zeros that stand for a positive power of ten.

## Main results

* `Formula.Decimal.ofChars?_positional` — plain notation is read as a decimal of the same value.
* `Formula.Double.ofChars?_shortest_positional` — the shortest digits of a number are read as the number.
-/

namespace Formula

namespace Decimal

variable {d : Decimal} {cs ds : List Char} {c : Char}

/-! ## Reading digits and a point -/

/-- Digits alone are read as a whole number. -/
lemma ofChars?_of_isDigit (hne : cs ≠ []) (h : ∀ c ∈ cs, c.isDigit = true) :
    ofChars? cs = some ⟨ofDigitChars cs, 0⟩ := by
  unfold ofChars?
  rw [List.takeWhile_eq_self_iff.mpr h, List.dropWhile_eq_nil_iff.mpr h]
  simp [hne]

/-- Digits around a point are read as one number, and those behind the point are counted.

**Proof sketch.** The digits end at the point, and those behind it at the end. -/
lemma ofChars?_point (hne : cs ≠ []) (h : ∀ c ∈ cs ++ ds, c.isDigit = true) :
    ofChars? (cs ++ '.' :: ds) = some ⟨ofDigitChars (cs ++ ds), -(ds.length : Int)⟩ := by
  have hcs : ∀ c ∈ cs, c.isDigit = true := fun c hc => h c (List.mem_append_left ds hc)
  have hds : ∀ c ∈ ds, c.isDigit = true := fun c hc => h c (List.mem_append_right cs hc)
  have hpoint : ¬Char.isDigit '.' = true := by decide
  unfold ofChars?
  rw [List.takeWhile_append_of_pos hcs, List.dropWhile_append_of_pos hcs,
    List.takeWhile_cons_of_neg hpoint, List.dropWhile_cons_of_neg hpoint, List.append_nil]
  simp only [List.takeWhile_eq_self_iff.mpr hds, List.dropWhile_eq_nil_iff.mpr hds]
  rw [if_neg (fun hnil => hne hnil.1)]

/-! ## Plain notation -/

/-- Zeros are digits. -/
lemma isDigit_of_mem_zeros {n : Nat} (h : c ∈ zeros n) : c.isDigit = true := by
  rw [List.eq_of_mem_replicate h]
  rfl

/-- With a negative exponent there is a point, with digits in front of it and as many places behind it as
the exponent says.

**Proof sketch.** If there are enough digits, the point stands between them. Otherwise zeros fill up the
places. -/
lemma positional_of_neg (h : d.exponent < 0) :
    ∃ whole places : List Char, d.positional = whole ++ '.' :: places ∧ whole ≠ [] ∧
      (∀ c ∈ whole ++ places, c.isDigit = true) ∧ ofDigitChars (whole ++ places) = d.digits ∧
      -(places.length : Int) = d.exponent := by
  have hdigits : ∀ c ∈ digitChars d.digits, c.isDigit = true :=
    fun _ => isDigit_of_mem_digitChars
  have hvalue := ofDigitChars_digitChars d.digits
  unfold positional
  rw [if_neg (Int.not_le.mpr h)]
  dsimp only
  generalize digitChars d.digits = digits at *
  split
  · next hlt =>
    refine ⟨_, _, rfl, ?_, ?_, ?_, ?_⟩
    · intro hnil
      have hlength := congrArg List.length hnil
      rw [List.length_take, List.length_nil] at hlength
      omega
    · rwa [List.take_append_drop]
    · rwa [List.take_append_drop]
    · rw [List.length_drop]
      omega
  · next hle =>
    refine ⟨['0'], _, rfl, List.cons_ne_nil _ _, ?_, ?_, ?_⟩
    · intro c hc
      rcases List.mem_append.mp hc with hc | hc
      · rw [List.mem_singleton.mp hc]
        rfl
      · exact (List.mem_append.mp hc).elim isDigit_of_mem_zeros (hdigits c)
    · rw [ofDigitChars_eq] at hvalue ⊢
      rw [← List.append_assoc, ← List.replicate_one, zeros, List.replicate_append_replicate,
        Nat.ofDigitChars_append, Nat.ofDigitChars_replicate_zero, Nat.mul_zero, hvalue]
    · rw [List.length_append, zeros, List.length_replicate]
      omega

/-- Plain notation has no other characters than digits and the point.

**Proof sketch.** By cases on the sign of the exponent. -/
lemma mem_positional (h : c ∈ d.positional) : c.isDigit = true ∨ c = '.' := by
  by_cases hexponent : 0 ≤ d.exponent
  · rw [positional, if_pos hexponent] at h
    exact .inl ((List.mem_append.mp h).elim isDigit_of_mem_digitChars isDigit_of_mem_zeros)
  · obtain ⟨whole, places, heq, -, hdigits, -⟩ := positional_of_neg (Int.not_le.mp hexponent)
    rw [heq, List.mem_append, List.mem_cons] at h
    rcases h with h | rfl | h
    · exact .inl (hdigits c (List.mem_append_left _ h))
    · exact .inr rfl
    · exact .inl (hdigits c (List.mem_append_right _ h))

/-- Plain notation is read as a decimal of the same value: the zeros of a positive exponent become
digits, and everything else stays as it is.

**Proof sketch.** A positive exponent multiplies by a power of ten, which is what zeros behind the
digits do. A negative one is read back from the places behind the point. -/
theorem ofChars?_positional (d : Decimal) :
    ∃ d', ofChars? d.positional = some d' ∧ d'.value = d.value := by
  by_cases hexponent : 0 ≤ d.exponent
  · obtain ⟨n, hn⟩ := Int.eq_ofNat_of_zero_le hexponent
    refine ⟨⟨10 ^ n * d.digits, 0⟩, ?_, ?_⟩
    · have hvalue := ofDigitChars_digitChars d.digits
      rw [ofDigitChars_eq] at hvalue
      rw [positional, if_pos hexponent, hn, Int.toNat_natCast, ofChars?_of_isDigit, ofDigitChars_eq,
        Nat.ofDigitChars_append, hvalue, zeros, Nat.ofDigitChars_replicate_zero]
      · exact List.append_ne_nil_of_left_ne_nil digitChars_ne_nil _
      · exact fun c hc =>
          (List.mem_append.mp hc).elim isDigit_of_mem_digitChars isDigit_of_mem_zeros
    · rw [value, value, hn, zpow_natCast, zpow_zero]
      push_cast
      ring
  · obtain ⟨whole, places, heq, hne, hdigits, hvalue, hlength⟩ :=
      positional_of_neg (Int.not_le.mp hexponent)
    refine ⟨d, ?_, rfl⟩
    rw [heq, ofChars?_point hne hdigits, hvalue, hlength]

end Decimal

namespace Double

variable {x : Double} {cs : List Char}

/-- Digits and points are read behind a sign as they are without it.

**Proof sketch.** A sign is read as one, and a digit or a point is none. -/
lemma ofChars?_signChars (negative : Bool) {d : Decimal}
    (h : ∀ c ∈ cs, c.isDigit = true ∨ c = '.') (hread : Decimal.ofChars? cs = some d) :
    ofChars? (signChars negative ++ cs) = some (d.toDouble negative) := by
  cases negative with
  | true => simp only [ofChars?, signChars, if_true, List.cons_append, List.nil_append, hread]
  | false =>
    cases cs with
    | nil => cases hread
    | cons c more =>
      have hsign : c ≠ '-' ∧ c ≠ '+' := by
        rcases h c List.mem_cons_self with hdigit | rfl
        · constructor <;> rintro rfl <;> exact absurd hdigit (by decide)
        · decide
      simp [ofChars?, signChars, hsign, hread]

/-- The shortest digits of a finite number in plain notation, behind its sign, are read as the number. -/
theorem ofChars?_shortest_positional (h : x.isFinite = true) (tie : Tie) :
    ofChars? (signChars x.isNegative ++ (Decimal.shortest tie x).positional) = some x := by
  obtain ⟨d, hread, hvalue⟩ := Decimal.ofChars?_positional (Decimal.shortest tie x)
  rw [ofChars?_signChars _ (fun _ => Decimal.mem_positional) hread, Decimal.toDouble_congr hvalue,
    Decimal.toDouble_shortest h]

end Double

end Formula
