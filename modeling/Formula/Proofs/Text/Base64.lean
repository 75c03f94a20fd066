import Formula.Proofs.Text.Bytes
import Formula.Text.Base64

set_option autoImplicit false

/-!
# Base 64 is read back

A digit stands for one number below 64, and the filler stands for none. So a group of four digits is one of
three bytes. A shorter group is recognised by the filler behind it, and the bits of its last digit that belong
to no byte have to be zero, so it is one of one byte or two. In this way nothing is read but what is written
for some bytes.

## Main results

* `Formula.Text.Base64.value?_eq_some_iff` — the numbers of digits.
* `Formula.Text.Base64.decode?_eq_some_iff` — bytes are read for what is written for them only.
* `Formula.Text.Base64.textOfBytes?_eq_some_iff` — the texts of bytes.
-/

namespace Formula.Text.Base64

variable {a b c d : Char} {n x y z w : Nat} {cs rest : List Char} {bytes : List UInt8} {s : String}

/-! ## Digits -/

/-- Each of the numbers below 64 is the value of its digit. -/
lemma value?_digit (h : n < 64) : value? (digit n) = some n := by
  have htable : ∀ n < 64, value? (digit n) = some n := by decide
  exact htable n h

/-- A character with a value is the digit for it.

**Proof sketch.** A character with a value is an ASCII character, and the table of these has been gone
through. -/
lemma digit_of_value? (h : value? c = some n) : n < 64 ∧ digit n = c := by
  have htable : ∀ code < 128, ∀ n ∈ value? (Char.ofNat code), n < 64 ∧ digit n = Char.ofNat code := by
    decide
  have hascii : c.toNat < 128 := by
    unfold value? at h
    split_ifs at h with hupper hlower hdecimal hplus hslash
    · exact Nat.lt_of_le_of_lt hupper.2 (by decide)
    · exact Nat.lt_of_le_of_lt hlower.2 (by decide)
    · exact Nat.lt_of_le_of_lt hdecimal.2 (by decide)
    · rw [hplus]
      decide
    · rw [hslash]
      decide
  rw [← Char.ofNat_toNat c] at h ⊢
  exact htable _ hascii n h

/-- A digit stands for one number, and each number below 64 has one digit. -/
lemma value?_eq_some_iff : value? c = some n ↔ n < 64 ∧ digit n = c := by
  constructor
  · exact digit_of_value?
  · rintro ⟨hn, rfl⟩
    exact value?_digit hn

/-- The filler is no digit. -/
lemma digit_ne_filler (h : n < 64) : digit n ≠ '=' := by
  have htable : ∀ n < 64, digit n ≠ '=' := by decide
  exact htable n h

/-! ## Groups -/

/-- With a digit at the end, four characters are a group of three bytes. -/
lemma decode?_three (h : d ≠ '=') :
    decode? (a :: b :: c :: d :: rest) = (do
      let a ← value? a
      let b ← value? b
      let c ← value? c
      let d ← value? d
      let bytes ← decode? rest
      some (UInt8.ofNat (a * 4 + b / 16) :: UInt8.ofNat (b % 16 * 16 + c / 4) ::
        UInt8.ofNat (c % 4 * 64 + d) :: bytes)) := by
  rw [decode?]
  · rintro - hd
    exact absurd hd h
  · rintro hd
    exact absurd hd h

/-- With a digit and the filler at the end, four characters are a group of two bytes. -/
lemma decode?_two (h : c ≠ '=') :
    decode? [a, b, c, '='] = (do
      let a ← value? a
      let b ← value? b
      let c ← value? c
      if c % 4 = 0 then some [UInt8.ofNat (a * 4 + b / 16), UInt8.ofNat (b % 16 * 16 + c / 4)]
      else none) := by
  rw [decode?]
  exact h

/-- The bytes that numbers below 64 are put together to. -/
lemma toNat_bytes (hx : x < 64) (hy : y < 64) (hz : z < 64) (hw : w < 64) :
    (UInt8.ofNat (x * 4 + y / 16)).toNat = x * 4 + y / 16 ∧
      (UInt8.ofNat (y % 16 * 16 + z / 4)).toNat = y % 16 * 16 + z / 4 ∧
      (UInt8.ofNat (z % 4 * 64 + w)).toNat = z % 4 * 64 + w := by
  have hfit {n : Nat} (h : n < 256) : (UInt8.ofNat n).toNat = n := UInt8.toNat_ofNat_of_lt' h
  exact ⟨hfit (by omega), hfit (by omega), hfit (by omega)⟩

/-- The numbers below 64 that bytes are taken apart to are put together to these bytes. -/
lemma ofNat_digits (a b c : UInt8) :
    UInt8.ofNat (a.toNat / 4 * 4 + (a.toNat % 4 * 16 + b.toNat / 16) / 16) = a ∧
      UInt8.ofNat ((a.toNat % 4 * 16 + b.toNat / 16) % 16 * 16 +
        (b.toNat % 16 * 4 + c.toNat / 64) / 4) = b ∧
      UInt8.ofNat ((b.toNat % 16 * 4 + c.toNat / 64) % 4 * 64 + c.toNat % 64) = c := by
  have hb := b.toNat_lt
  have hc := c.toNat_lt
  have hsame {n : Nat} {byte : UInt8} (h : n = byte.toNat) : UInt8.ofNat n = byte := by
    rw [h, UInt8.ofNat_toNat]
  exact ⟨hsame (by omega), hsame (by omega), hsame (by omega)⟩

/-! ## Bytes -/

/-- What is written for bytes is read as these.

**Proof sketch.** Induction on the bytes, three at a time. One or two bytes at the end leave zeros in
the last digit, which are dropped again. -/
lemma decode?_encode (bytes : List UInt8) : decode? (encode bytes) = some bytes := by
  fun_induction encode bytes with
  | case1 => rfl
  | case2 a =>
    have ha := a.toNat_lt
    obtain ⟨hfirst, -, -⟩ := ofNat_digits a 0 0
    rw [UInt8.toNat_zero, Nat.zero_div, Nat.add_zero] at hfirst
    rw [decode?, value?_digit (by omega), value?_digit (by omega)]
    simp only [Option.bind_eq_bind, Option.bind_some]
    rw [if_pos (by omega), hfirst]
  | case3 a b =>
    have ha := a.toNat_lt
    have hb := b.toNat_lt
    obtain ⟨hfirst, hsecond, -⟩ := ofNat_digits a b 0
    rw [UInt8.toNat_zero, Nat.zero_div, Nat.add_zero] at hsecond
    rw [decode?_two (digit_ne_filler (by omega)), value?_digit (by omega), value?_digit (by omega),
      value?_digit (by omega)]
    simp only [Option.bind_eq_bind, Option.bind_some]
    rw [if_pos (by omega), hfirst, hsecond]
  | case4 a b c rest ih =>
    have ha := a.toNat_lt
    have hb := b.toNat_lt
    have hc := c.toNat_lt
    obtain ⟨hfirst, hsecond, hthird⟩ := ofNat_digits a b c
    rw [decode?_three (digit_ne_filler (by omega)), value?_digit (by omega), value?_digit (by omega),
      value?_digit (by omega), value?_digit (by omega), ih]
    simp only [Option.bind_eq_bind, Option.bind_some]
    rw [hfirst, hsecond, hthird]

/-- What is read as bytes is what is written for these.

**Proof sketch.** Induction along the reading, four digits at a time. What is left of the last digit in
front of a filler has to be zero, so nothing is lost. -/
lemma encode_of_decode? (h : decode? cs = some bytes) : encode bytes = cs := by
  fun_induction decode? cs generalizing bytes with
  | case1 =>
    cases h
    rfl
  | case2 a b =>
    simp only [Option.bind_eq_bind, Option.bind_eq_some_iff, value?_eq_some_iff,
      Option.ite_none_right_eq_some, Option.some_inj] at h
    obtain ⟨x, ⟨hx, rfl⟩, y, ⟨hy, rfl⟩, hbits, rfl⟩ := h
    obtain ⟨hfirst, -, -⟩ := toNat_bytes hx hy hx hx
    have hx' : (x * 4 + y / 16) / 4 = x := by omega
    have hy' : (x * 4 + y / 16) % 4 * 16 = y := by omega
    rw [encode, hfirst, hx', hy']
  | case3 a b c =>
    simp only [Option.bind_eq_bind, Option.bind_eq_some_iff, value?_eq_some_iff,
      Option.ite_none_right_eq_some, Option.some_inj] at h
    obtain ⟨x, ⟨hx, rfl⟩, y, ⟨hy, rfl⟩, z, ⟨hz, rfl⟩, hbits, rfl⟩ := h
    obtain ⟨hfirst, hsecond, -⟩ := toNat_bytes hx hy hz hx
    have hx' : (x * 4 + y / 16) / 4 = x := by omega
    have hy' : (x * 4 + y / 16) % 4 * 16 + (y % 16 * 16 + z / 4) / 16 = y := by omega
    have hz' : (y % 16 * 16 + z / 4) % 16 * 4 = z := by omega
    rw [encode, hfirst, hsecond, hx', hy', hz']
  | case4 a b c d rest _ _ ih =>
    simp only [Option.bind_eq_bind, Option.bind_eq_some_iff, value?_eq_some_iff, Option.some_inj] at h
    obtain ⟨x, ⟨hx, rfl⟩, y, ⟨hy, rfl⟩, z, ⟨hz, rfl⟩, w, ⟨hw, rfl⟩, _, hrest, rfl⟩ := h
    obtain ⟨hfirst, hsecond, hthird⟩ := toNat_bytes hx hy hz hw
    have hx' : (x * 4 + y / 16) / 4 = x := by omega
    have hy' : (x * 4 + y / 16) % 4 * 16 + (y % 16 * 16 + z / 4) / 16 = y := by omega
    have hz' : (y % 16 * 16 + z / 4) % 16 * 4 + (z % 4 * 64 + w) / 64 = z := by omega
    have hw' : (z % 4 * 64 + w) % 64 = w := by omega
    rw [encode, hfirst, hsecond, hthird, hx', hy', hz', hw', ih hrest]
  | case5 => cases h

/-- Bytes are read for what is written for them only. -/
theorem decode?_eq_some_iff : decode? cs = some bytes ↔ encode bytes = cs := by
  constructor
  · exact encode_of_decode?
  · rintro rfl
    exact decode?_encode bytes

/-- The filler is wanted, and no bits behind the last byte. -/
example : encode [0x66] = ['Z', 'g', '=', '='] ∧ decode? ['Z', 'g'] = none ∧
    decode? ['Z', 'h', '=', '='] = none := by
  decide

/-! ## Texts -/

/-- Bytes that are a text are the bytes of this text.

**Proof sketch.** A text has valid bytes, and bytes that are valid are those of the text made of them. -/
lemma textOfBytes?_eq_some_iff : textOfBytes? bytes = some s ↔ Text.bytes s = bytes := by
  constructor
  · intro h
    unfold textOfBytes? String.fromUTF8? at h
    split at h
    · cases h
      rfl
    · cases h
  · rintro rfl
    unfold textOfBytes? String.fromUTF8?
    split
    · rfl
    · next h => exact absurd s.isValidUTF8 h

end Formula.Text.Base64
