import Mathlib.Data.List.Lex
import Mathlib.Algebra.Group.Nat.Defs
import Mathlib.Tactic.Lemma
import Mathlib.Tactic.SplitIfs

set_option autoImplicit false

/-!
# The order of texts and of their bytes

A character is encoded in UTF-8 as a leading byte, which says how many bytes there are, and up to three
further ones, which carry six bits each. The leading byte grows with the number of bytes, so characters stand
in the order of their bytes, and so do texts.

## Main definitions

* `Formula.Text.bytes` — the bytes of a text.
* `Formula.Text.bytesWith` — a code point as a leading byte and so many further ones.

## Main results

* `Formula.Text.utf8EncodeChar_eq` — how characters are encoded.
* `Formula.Text.lt_iff_bytes_lt` — texts stand in the order of their bytes.
-/

namespace Formula.Text

variable {c d : Char} {cs ds : List Char} {s t : String} {m n lead : Nat}

/-! ## Code points -/

/-- A code point as a leading byte, to which `lead` is added, and so many further bytes, each of which
carries six bits. -/
def bytesWith (lead : Nat) : (further : Nat) → (code : Nat) → List UInt8
  | 0, code => [UInt8.ofNat (code + lead)]
  | further + 1, code => bytesWith lead further (code / 64) ++ [UInt8.ofNat (code % 64 + 128)]

/-- Code points are less than `0x110000`. -/
lemma toNat_lt (c : Char) : c.toNat < 0x110000 := by
  rcases c.valid with h | ⟨-, h⟩
  · exact Nat.lt_trans h (by decide)
  · exact h

/-- Bytes are in the order of their numbers. -/
lemma ofNat_lt_ofNat {a b : Nat} (h : a < b) (hb : b < 256) : UInt8.ofNat a < UInt8.ofNat b := by
  rwa [UInt8.lt_iff_toNat_lt, UInt8.toNat_ofNat_of_lt' hb,
    UInt8.toNat_ofNat_of_lt' (Nat.lt_trans h hb)]

/-- Of two code points with as many bytes, the smaller one has the smaller bytes.

**Proof sketch.** Induction on the number of further bytes. What is left for the bytes in front decides,
and if it is the same for both code points then the last six bits do. -/
lemma bytesWith_append_lt {further : Nat} (h : m < n) (hn : n / 64 ^ further + lead < 256)
    (xs ys : List UInt8) :
    bytesWith lead further m ++ xs < bytesWith lead further n ++ ys := by
  induction further generalizing m n xs ys with
  | zero =>
    rw [pow_zero, Nat.div_one] at hn
    exact .rel (ofNat_lt_ofNat (by omega) hn)
  | succ k ih =>
    rw [bytesWith, bytesWith, List.append_assoc, List.append_assoc]
    -- The last byte decides only if the bits in front of it are the same.
    rcases (by omega : m / 64 < n / 64 ∨ m / 64 = n / 64 ∧ m % 64 < n % 64) with hlt | ⟨heq, hlt⟩
    · rw [pow_succ', ← Nat.div_div_eq_div_mul] at hn
      exact ih hlt hn _ _
    · rw [heq]
      exact List.Lex.append_left _ (.rel (ofNat_lt_ofNat (by omega) (by omega))) _

/-- The leading byte carries the bits that are left over.

**Proof sketch.** Induction on the number of further bytes. -/
lemma bytesWith_eq_cons (lead further code : Nat) :
    ∃ rest, bytesWith lead further code = UInt8.ofNat (code / 64 ^ further + lead) :: rest := by
  induction further generalizing code with
  | zero => exact ⟨[], by rw [pow_zero, Nat.div_one]; rfl⟩
  | succ k ih =>
    obtain ⟨rest, hrest⟩ := ih (code / 64)
    refine ⟨rest ++ [UInt8.ofNat (code % 64 + 128)], ?_⟩
    rw [bytesWith, hrest, pow_succ', Nat.div_div_eq_div_mul]
    rfl

/-- Of two code points, the one with the smaller leading byte has the smaller bytes. -/
lemma bytesWith_append_lt_of_lead {lead lead' further further' : Nat}
    (h : m / 64 ^ further + lead < n / 64 ^ further' + lead')
    (hn : n / 64 ^ further' + lead' < 256) (xs ys : List UInt8) :
    bytesWith lead further m ++ xs < bytesWith lead' further' n ++ ys := by
  obtain ⟨rest, hm⟩ := bytesWith_eq_cons lead further m
  obtain ⟨rest', hn'⟩ := bytesWith_eq_cons lead' further' n
  rw [hm, hn']
  exact .rel (ofNat_lt_ofNat h hn)

/-! ## Characters -/

/-- How many bytes a code point has behind the leading one. -/
def furtherBytes (code : Nat) : Nat :=
  if code ≤ 127 then 0 else if code ≤ 2047 then 1 else if code ≤ 65535 then 2 else 3

/-- What is added to a leading byte, so that it says how many bytes there are. -/
def leadOf (further : Nat) : Nat :=
  match further with
  | 0 => 0
  | 1 => 192
  | 2 => 224
  | _ => 240

/-- Where the bytes of two code points differ in number, the leading byte of the greater one is greater. -/
lemma leading_lt (h : m < n) (hn : n < 0x110000) (hne : furtherBytes m ≠ furtherBytes n) :
    m / 64 ^ furtherBytes m + leadOf (furtherBytes m) <
      n / 64 ^ furtherBytes n + leadOf (furtherBytes n) := by
  revert hne
  unfold furtherBytes
  split_ifs <;> simp [leadOf] <;> omega

/-- A leading byte is a byte. -/
lemma leading_lt_256 (hn : n < 0x110000) :
    n / 64 ^ furtherBytes n + leadOf (furtherBytes n) < 256 := by
  unfold furtherBytes
  split_ifs <;> simp [leadOf] <;> omega

/-- A character is encoded as UTF-8 says. The bits that are cut off from a leading byte are zero.

**Proof sketch.** By cases on the number of bytes. -/
lemma utf8EncodeChar_eq (c : Char) : String.utf8EncodeChar c =
    bytesWith (leadOf (furtherBytes c.toNat)) (furtherBytes c.toNat) c.toNat := by
  have hmax : c.toNat < 0x110000 := toNat_lt c
  unfold String.utf8EncodeChar furtherBytes
  rw [Char.toNat_val]
  generalize c.toNat = m at *
  dsimp only
  split_ifs
  · rfl
  · rw [Nat.mod_eq_of_lt (a := m / 64) (by omega)]
    rfl
  · rw [Nat.mod_eq_of_lt (a := m / 4096) (by omega)]
    simp [bytesWith, leadOf, Nat.div_div_eq_div_mul]
  · rw [Nat.mod_eq_of_lt (a := m / 262144) (by omega)]
    simp [bytesWith, leadOf, Nat.div_div_eq_div_mul]

/-- The smaller of two characters has the smaller bytes, whatever follows them.

**Proof sketch.** With as many bytes, the smaller code point has the smaller bytes. Otherwise it has
fewer bytes and the smaller leading byte. -/
lemma utf8EncodeChar_append_lt (h : c < d) (xs ys : List UInt8) :
    String.utf8EncodeChar c ++ xs < String.utf8EncodeChar d ++ ys := by
  have hlt : c.toNat < d.toNat := h
  have hleading := leading_lt_256 (toNat_lt d)
  rw [utf8EncodeChar_eq, utf8EncodeChar_eq]
  by_cases heq : furtherBytes c.toNat = furtherBytes d.toNat
  · rw [heq]
    exact bytesWith_append_lt hlt hleading xs ys
  · exact bytesWith_append_lt_of_lead (leading_lt hlt (toNat_lt d) heq) hleading xs ys

/-! ## Texts -/

/-- The bytes of a text. -/
def bytes (s : String) : List UInt8 :=
  s.toByteArray.data.toList

/-- The bytes of a text are those of its characters, one after the other. -/
lemma bytes_eq_flatMap (s : String) : bytes s = s.toList.flatMap String.utf8EncodeChar := by
  obtain ⟨cs, rfl⟩ : ∃ cs, s = String.ofList cs := ⟨s.toList, String.ofList_toList.symm⟩
  rw [bytes, String.toByteArray_ofList, String.toList_ofList, List.utf8Encode, List.data_toByteArray]

/-- What follows the characters that texts begin with decides only if these are the same.

**Proof sketch.** Induction on how the texts compare. -/
lemma flatMap_utf8EncodeChar_lt (h : cs < ds) :
    cs.flatMap String.utf8EncodeChar < ds.flatMap String.utf8EncodeChar := by
  induction h with
  | nil =>
    next d ds =>
    obtain ⟨b, rest, hd⟩ := List.exists_cons_of_ne_nil (String.utf8EncodeChar_ne_nil (c := d))
    rw [List.flatMap_cons, hd]
    exact .nil
  | rel hlt => exact utf8EncodeChar_append_lt hlt _ _
  | cons _ ih => exact List.Lex.append_left _ ih _

/-- Texts stand in the order of their bytes.

**Proof sketch.** Smaller texts have smaller bytes, and texts are in a linear order. -/
lemma lt_iff_bytes_lt : s < t ↔ bytes s < bytes t := by
  have hbytes {s t : String} (h : s < t) : bytes s < bytes t := by
    rw [bytes_eq_flatMap, bytes_eq_flatMap]
    exact flatMap_utf8EncodeChar_lt (show s.toList < t.toList from h)
  refine ⟨hbytes, fun h => ?_⟩
  by_contra hle
  by_cases hlt : t < s
  · exact List.lt_asymm h (hbytes hlt)
  · obtain rfl := String.le_antisymm (String.not_lt.mp hlt) (String.not_lt.mp hle)
    exact List.lt_irrefl _ h

end Formula.Text
