import Formula.Json.Reading
import Mathlib.Tactic.Lemma

set_option autoImplicit false

/-!
# Texts in JSON are read back

Every character, escaped or not, is read as itself, so a text between quotes is read as the text that
was written.

## Main results

* `Formula.Json.stringTail?_escape` — a character is read as itself.
* `Formula.Json.string?_stringText` — a text between quotes is read as the text that was written.
-/

namespace Formula.Json

/-- An escape with a letter is read as its character. -/
lemma stringTail?_shortEscape {c e : Char} (h : shortEscape? e = some c) (cs : List Char) :
    stringTail? ('\\' :: e :: cs) =
      (stringTail? cs).map fun (tail, rest) => (c :: tail, rest) := by
  have hu : e ≠ 'u' := by
    rintro rfl
    cases h
  simp [stringTail?, hu, h]

/-- The four digits of a control character write its number. -/
lemma hexFour?_hexPair : ∀ n < 0x20,
    hexFour? '0' '0' (Nat.digitChar (n / 16)) (Nat.digitChar (n % 16)) = some n := by
  decide

/-- An escape with a number is read as the control character with this number. -/
lemma stringTail?_hexPair {c : Char} (h : c.toNat < 0x20) (cs : List Char) :
    stringTail? (['\\', 'u', '0', '0'] ++ hexPair c.toNat ++ cs) =
      (stringTail? cs).map fun (tail, rest) => (c :: tail, rest) := by
  simp only [hexPair, List.cons_append, List.nil_append]
  rw [stringTail?, hexFour?_hexPair _ h]
  simp only [show c.toNat < 0xd800 ∨ 0xe000 ≤ c.toNat from .inl (by omega), if_true,
    Char.ofNat_toNat]

/-- A character that is neither a quote nor a backslash nor a control character is read as it is. -/
lemma stringTail?_plain {c : Char} (hquote : c ≠ '"') (hslash : c ≠ '\\') (h : ¬c.toNat < 0x20)
    (cs : List Char) :
    stringTail? (c :: cs) = (stringTail? cs).map fun (tail, rest) => (c :: tail, rest) := by
  rw [stringTail?, if_neg (by simp [h, hslash])]
  · exact hquote
  · exact fun _ _ _ _ _ heq => absurd heq hslash
  · exact fun _ _ heq => absurd heq hslash

/-- A character that is written, escaped where it has to be, is read as itself.

**Proof sketch.** One case for each way to write a character. -/
lemma stringTail?_escape (c : Char) (cs : List Char) :
    stringTail? (escape c ++ cs) = (stringTail? cs).map fun (tail, rest) => (c :: tail, rest) := by
  fun_cases escape c with
  | case1 h =>
    rcases h with rfl | rfl
    · exact stringTail?_shortEscape rfl cs
    · exact stringTail?_shortEscape rfl cs
  -- Each escape that is written with a letter is read by this letter.
  | case2 _ h | case3 _ _ h | case4 _ _ _ h | case5 _ _ _ _ h | case6 _ _ _ _ _ h =>
    subst h
    exact stringTail?_shortEscape rfl cs
  | case7 _ _ _ _ _ _ h => exact stringTail?_hexPair h cs
  | case8 h _ _ _ _ _ hcontrol =>
    rw [not_or] at h
    exact stringTail?_plain h.1 h.2 hcontrol cs

/-- A text between quotes is read as the text that was written.

**Proof sketch.** Induction on the characters, up to the quote behind them. -/
lemma string?_stringText (s : String) (cs : List Char) :
    string? ((stringText s).toList ++ cs) = some (s, cs) := by
  have htail (text : List Char) :
      stringTail? (text.flatMap escape ++ '"' :: cs) = some (text, cs) := by
    induction text with
    | nil => rw [List.flatMap_nil, List.nil_append, stringTail?]
    | cons c text ih => rw [List.flatMap_cons, List.append_assoc, stringTail?_escape, ih]; rfl
  simp [stringText, string?, htail]

end Formula.Json
