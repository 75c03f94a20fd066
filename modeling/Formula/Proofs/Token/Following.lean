import Formula.Proofs.Text.Place
import Formula.Token.Lexer
import Mathlib.Data.List.TakeWhile

set_option autoImplicit false

/-!
# What stands behind a token

Where a token ends depends on at most two characters behind it. Neither the end of the text nor a blank
can become part of a token, so a text may be cut off anywhere behind a token, or be broken off there by
a blank.

## Main definitions

* `Formula.Lexer.Clipped` — a text goes on like another, up to its end or a blank.

## Main results

* `Formula.Lexer.isBlank_of_isWordChar` — no blank is part of a word.
* `Formula.Lexer.Clipped.cons` — a text that goes on like another has its characters, blanks apart.
* `Formula.Lexer.takeWhile_spec`, `Formula.Lexer.takeWhile_append` — the longest stretch of a class is
  what the next character ends.
-/

namespace Formula.Lexer

/-! ## Classes of characters -/

section Classes

variable {c : Char}

/-- The capital letters, by their numbers. -/
lemma isUpper_iff_toNat : c.isUpper = true ↔ 65 ≤ c.toNat ∧ c.toNat ≤ 90 := by
  have hupper : c.isUpper = decide ('A'.val ≤ c.val ∧ c.val ≤ 'Z'.val) := rfl
  rw [hupper, decide_eq_true_iff, UInt32.le_iff_toNat_le, UInt32.le_iff_toNat_le]
  exact Iff.rfl

/-- The small letters, by their numbers. -/
lemma isLower_iff_toNat : c.isLower = true ↔ 97 ≤ c.toNat ∧ c.toNat ≤ 122 := by
  have hlower : c.isLower = (decide ('a'.val ≤ c.val) && decide (c.val ≤ 'z'.val)) := rfl
  rw [hlower, Bool.and_eq_true, decide_eq_true_iff, decide_eq_true_iff, UInt32.le_iff_toNat_le,
    UInt32.le_iff_toNat_le]
  exact Iff.rfl

/-- What begins a word, by its number: the underscore or a letter. -/
lemma isWordStart_iff_toNat :
    isWordStart c = true ↔
      c.toNat = 95 ∨ (65 ≤ c.toNat ∧ c.toNat ≤ 90) ∨ (97 ≤ c.toNat ∧ c.toNat ≤ 122) := by
  have hunderscore : c = '_' ↔ c.toNat = 95 := ⟨fun h => h ▸ rfl, fun h => Char.toNat_inj.mp h⟩
  have halpha : c.isAlpha = (c.isUpper || c.isLower) := rfl
  rw [isWordStart, halpha, Bool.or_eq_true, Bool.or_eq_true, beq_iff_eq, hunderscore,
    isUpper_iff_toNat, isLower_iff_toNat]

/-- What goes on a word begins one or is a digit. -/
lemma isWordChar_iff : isWordChar c = true ↔ isWordStart c = true ∨ c.isDigit = true := by
  have halphanum : c.isAlphanum = (c.isAlpha || c.isDigit) := rfl
  simp only [isWordChar, isWordStart, halphanum, Bool.or_eq_true, or_assoc]

/-- The hexadecimal digits, by their numbers. -/
lemma isHexDigit_iff_toNat :
    Text.isHexDigit c = true ↔ (48 ≤ c.toNat ∧ c.toNat ≤ 57) ∨ (97 ≤ c.toNat ∧ c.toNat ≤ 102) ∨
      (65 ≤ c.toNat ∧ c.toNat ≤ 70) := by
  have hle (d : Char) : d ≤ c ↔ d.toNat ≤ c.toNat := Iff.rfl
  have hge (d : Char) : c ≤ d ↔ c.toNat ≤ d.toNat := Iff.rfl
  unfold Text.isHexDigit Text.hexValue?
  simp only [hle, hge, Char.reduceToNat]
  split_ifs <;> simp <;> omega

/-- A digit goes on a word. -/
lemma isWordChar_of_isDigit (h : c.isDigit = true) : isWordChar c = true :=
  isWordChar_iff.mpr (.inr h)

/-- What begins a word also goes on one. -/
lemma isWordChar_of_isWordStart (h : isWordStart c = true) : isWordChar c = true :=
  isWordChar_iff.mpr (.inl h)

/-- What ends a word neither begins one nor is a digit. -/
lemma not_isWordChar_iff :
    isWordChar c = false ↔ isWordStart c = false ∧ c.isDigit = false := by
  simp only [← Bool.not_eq_true, isWordChar_iff, not_or]

/-- No word begins with a digit. -/
lemma isDigit_of_isWordStart (h : isWordStart c = true) : c.isDigit = false := by
  by_contra hdigit
  rw [Bool.not_eq_false, Char.isDigit_iff_toNat] at hdigit
  rw [isWordStart_iff_toNat] at h
  simp only [Char.reduceToNat] at hdigit
  omega

/-- A hexadecimal digit goes on a word. -/
lemma isWordChar_of_isHexDigit (h : Text.isHexDigit c = true) : isWordChar c = true := by
  rw [isHexDigit_iff_toNat] at h
  rw [isWordChar_iff, isWordStart_iff_toNat, Char.isDigit_iff_toNat]
  simp only [Char.reduceToNat]
  omega

/-- The characters of words lie between the digits and the small letters. -/
lemma bounds_of_isWordChar (h : isWordChar c = true) : 48 ≤ c.toNat ∧ c.toNat ≤ 122 := by
  rw [isWordChar_iff, isWordStart_iff_toNat, Char.isDigit_iff_toNat] at h
  simp only [Char.reduceToNat] at h
  omega

/-- A hexadecimal digit takes one byte. -/
lemma lt_of_isHexDigit (h : Text.isHexDigit c = true) : c.toNat < 128 := by
  have hbounds := bounds_of_isWordChar (isWordChar_of_isHexDigit h)
  omega

/-- No blank lies where the characters of words do. -/
lemma bounds_of_isBlank (h : Text.isBlank c = true) : c.toNat ≤ 32 ∨ 133 ≤ c.toNat := by
  simp only [Text.isBlank, Text.blankRanges, List.any_cons, List.any_nil, Bool.or_false,
    Bool.or_eq_true, decide_eq_true_eq] at h
  omega

/-- No blank is part of a word. -/
lemma isBlank_of_isWordChar (h : isWordChar c = true) : Text.isBlank c = false := by
  by_contra hblank
  have hblank := bounds_of_isBlank (Bool.not_eq_false _ ▸ hblank)
  have hbounds := bounds_of_isWordChar h
  omega

/-- No digit is a blank. -/
lemma isBlank_of_isDigit (h : c.isDigit = true) : Text.isBlank c = false :=
  isBlank_of_isWordChar (isWordChar_of_isDigit h)

end Classes

/-! ## The longest stretch of a class -/

/-- The longest stretch of a class ends where a character outside the class, or none, follows. -/
lemma takeWhile_spec (p : Char → Bool) (cs : List Char) :
    cs = cs.takeWhile p ++ cs.dropWhile p ∧ (∀ c ∈ cs.takeWhile p, p c = true) ∧
      ∀ c ∈ (cs.dropWhile p).head?, p c = false := by
  refine ⟨List.takeWhile_append_dropWhile.symm, fun c => List.mem_takeWhile_imp, fun c hc => ?_⟩
  have hhead := List.head?_dropWhile_not p cs
  rw [hc] at hhead
  exact hhead

/-- What is left behind the longest prefix with a property. -/
lemma drop_length_takeWhile (p : Char → Bool) (cs : List Char) :
    cs.drop (cs.takeWhile p).length = cs.dropWhile p := by
  calc cs.drop (cs.takeWhile p).length
      = (cs.takeWhile p ++ cs.dropWhile p).drop (cs.takeWhile p).length := by
        rw [← (takeWhile_spec p cs).1]
    _ = cs.dropWhile p := List.drop_left

/-- What ends in front of such a character is the longest stretch. -/
lemma takeWhile_append {p : Char → Bool} {front left : List Char} (hfront : ∀ c ∈ front, p c = true)
    (hleft : ∀ c ∈ left.head?, p c = false) :
    (front ++ left).takeWhile p = front ∧ (front ++ left).dropWhile p = left := by
  rw [List.takeWhile_append_of_pos hfront, List.dropWhile_append_of_pos hfront]
  cases left with
  | nil => simp
  | cons c left => simp [hleft c rfl]

/-- A result that is mapped comes from a result. -/
lemma exists_of_map_eq_ok {ε α β : Type} {f : α → β} {m : Except ε α} {b : β}
    (h : m.map f = .ok b) : ∃ a, m = .ok a ∧ f a = b := by
  cases m with
  | error e => cases h
  | ok a =>
    cases h
    exact ⟨a, rfl, rfl⟩

/-! ## Clipped texts -/

/-- The text `left'` goes on like `left`, up to its end or a blank. -/
def Clipped (left left' : List Char) : Prop :=
  ∃ kept tail, left' = kept ++ tail ∧ kept <+: left ∧ ∀ c ∈ tail.head?, Text.isBlank c = true

/-- The empty text goes on like any other, up to its end. -/
lemma clipped_nil (left : List Char) : Clipped left [] :=
  ⟨[], [], rfl, List.nil_prefix, by simp⟩

/-- What stands behind a blank does not matter. -/
lemma clipped_append {tail : List Char} (left : List Char)
    (h : ∀ c ∈ tail.head?, Text.isBlank c = true) : Clipped left (left ++ tail) :=
  ⟨left, tail, rfl, List.prefix_rfl, h⟩

namespace Clipped

variable {c : Char} {left left' : List Char}

/-- A character of a clipped text that is no blank is the one of the text.

**Proof sketch.** If nothing of the text were kept, the character would be a blank. So the first
character is kept, and the rest is clipped as before. -/
lemma cons (h : Clipped left (c :: left')) (hc : Text.isBlank c = false) :
    ∃ more, left = c :: more ∧ Clipped more left' := by
  obtain ⟨kept, tail, heq, hkept, htail⟩ := h
  cases kept with
  | nil =>
    rw [List.nil_append] at heq
    have hblank := htail c (by rw [← heq]; rfl)
    rw [hc] at hblank
    cases hblank
  | cons d kept =>
    obtain ⟨rfl, rfl⟩ := List.cons.inj heq
    obtain ⟨rest, rfl⟩ := hkept
    exact ⟨kept ++ rest, rfl, kept, tail, rfl, List.prefix_append kept rest, htail⟩

/-- The same in front of both texts changes nothing. -/
lemma append (h : Clipped left left') (front : List Char) :
    Clipped (front ++ left) (front ++ left') := by
  obtain ⟨kept, tail, rfl, hkept, htail⟩ := h
  exact ⟨front ++ kept, tail, (List.append_assoc ..).symm, (List.prefix_append_right_inj front).mpr hkept,
    htail⟩

/-- Neither the end of the text nor a blank belongs to a class of characters in words. -/
lemma head {p : Char → Bool} (h : Clipped left left') (hp : ∀ c, p c = true → isWordChar c = true)
    (hleft : ∀ c ∈ left.head?, p c = false) : ∀ c ∈ left'.head?, p c = false := by
  intro c hc
  by_contra hpc
  obtain ⟨rest, rfl⟩ := List.head?_eq_some_iff.mp hc
  obtain ⟨more, rfl, -⟩ := h.cons (isBlank_of_isWordChar (hp c (Bool.not_eq_false _ ▸ hpc)))
  exact hpc (hleft c rfl)

end Clipped

end Formula.Lexer
