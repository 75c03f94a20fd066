import Formula.Proofs.Builtin.Calls
import Formula.Proofs.Text.Base64

set_option autoImplicit false

/-!
# Texts in base 64

A text is encoded by what is written in base 64 for its bytes. Decoding wants what is written for some bytes,
and the bytes of some text. Nothing is written for two lists of bytes, and two texts do not have the same
bytes, so a text can only be decoded from what it is encoded to.

## Main definitions

* `Formula.Builtin.Texts.decoded` — what digits are decoded to.

## Main results

* `Formula.Builtin.Texts.base64decode_inverts` — decoding undoes encoding, and does nothing else.
-/

namespace Formula.Builtin.Texts

variable {s t : String} {digits : List Char} {bytes : List UInt8}

/-- The text that digits are decoded to, or what is wrong with them. -/
def decoded (digits : List Char) : Except EvalError String :=
  match Text.Base64.decode? digits with
  | none => .error (.function "base64decode" .unreadable)
  | some bytes =>
    match Text.Base64.textOfBytes? bytes with
    | none => .error (.function "base64decode" .notText)
    | some s => .ok s

/-- The bytes of the text are written. -/
lemma gives_base64encode (s : String) : Gives "base64encode" [.string s]
    (.ok (.string (String.ofList (Text.Base64.encode (Text.bytes s))))) :=
  gives_plain rfl rfl rfl

/-- The characters of the text are decoded.

**Proof sketch.** By cases on what they stand for: nothing, bytes that are no text, or a text. -/
lemma gives_base64decode (t : String) :
    Gives "base64decode" [.string t] ((decoded t.toList).map .string) := by
  have hchars : Argument.chars "base64decode" [.string t] 0 = .ok t.toList := rfl
  refine gives_plain rfl rfl ?_
  rw [base64decode, hchars, decoded]
  simp only [bind, Except.bind]
  cases Text.Base64.decode? t.toList with
  | none => rfl
  | some bytes =>
    dsimp only
    cases Text.Base64.textOfBytes? bytes with
    | none => rfl
    | some s => rfl

/-- What is not written for any bytes is not decoded. -/
lemma decoded_of_unreadable (h : ¬∃ bytes, Text.Base64.encode bytes = digits) :
    decoded digits = .error (.function "base64decode" .unreadable) := by
  have hnone : Text.Base64.decode? digits = none := by
    rw [Option.eq_none_iff_forall_ne_some]
    intro bytes hbytes
    exact h ⟨bytes, Text.Base64.decode?_eq_some_iff.mp hbytes⟩
  rw [decoded, hnone]

/-- Nor is what is written for bytes that are not those of a text.

**Proof sketch.** The bytes are read back from what is written for them, and no text has them. -/
lemma decoded_of_notText (h : ¬∃ s, Text.bytes s = bytes) :
    decoded (Text.Base64.encode bytes) = .error (.function "base64decode" .notText) := by
  have hnone : Text.Base64.textOfBytes? bytes = none := by
    rw [Option.eq_none_iff_forall_ne_some]
    intro s hs
    exact h ⟨s, Text.Base64.textOfBytes?_eq_some_iff.mp hs⟩
  rw [decoded, Text.Base64.decode?_eq_some_iff.mpr rfl]
  dsimp only
  rw [hnone]

/-- What is written for the bytes of a text is decoded to the text. -/
lemma decoded_encode (s : String) : decoded (Text.Base64.encode (Text.bytes s)) = .ok s := by
  rw [decoded, Text.Base64.decode?_eq_some_iff.mpr rfl]
  dsimp only
  rw [Text.Base64.textOfBytes?_eq_some_iff.mpr rfl]

/-- A text is decoded from what is written for its bytes only.

**Proof sketch.** What is decoded is written for some bytes, and these are the bytes of a text. The same
text is decoded from what is written for them. -/
lemma decoded_eq_ok_iff : decoded digits = .ok s ↔ Text.Base64.encode (Text.bytes s) = digits := by
  constructor
  · intro h
    by_cases hdigits : ∃ bytes, Text.Base64.encode bytes = digits
    · obtain ⟨bytes, rfl⟩ := hdigits
      by_cases hbytes : ∃ s, Text.bytes s = bytes
      · obtain ⟨s', rfl⟩ := hbytes
        rw [decoded_encode] at h
        rw [Except.ok.inj h]
      · rw [decoded_of_notText hbytes] at h
        cases h
    · rw [decoded_of_unreadable hdigits] at h
      cases h
  · rintro rfl
    exact decoded_encode s

/-! ## The functions -/

/-- A call by the name gives what is written for the bytes, and nothing else. -/
lemma gives_base64encode_iff : Gives "base64encode" [.string s] (.ok (.string t)) ↔
    Text.Base64.encode (Text.bytes s) = t.toList := by
  rw [(gives_base64encode s).result_iff, Except.ok.injEq, Value.string.injEq, ← String.toList_inj,
    String.toList_ofList]

/-- Decoding succeeds with a text, and with one that is encoded to what is decoded. -/
lemma gives_base64decode_iff {r : Value} : Gives "base64decode" [.string t] (.ok r) ↔
    ∃ s, r = .string s ∧ Text.Base64.encode (Text.bytes s) = t.toList := by
  rw [(gives_base64decode t).result_iff]
  simp only [← decoded_eq_ok_iff]
  cases decoded t.toList with
  | error e => simp [Except.map]
  | ok s => simp [Except.map, eq_comm]

/-- **Decoding undoes encoding, and accepts nothing else.**

1. Every text is encoded to a text from which it is decoded.
2. Decoding a text succeeds only with a text that is encoded to it.
3. What is written for bytes that are not those of a text is refused for that.
4. What is not written for any bytes is refused as unreadable.

**Proof sketch.** Bytes are read for what is written for them only, whatever number of them is in the last
group, and are those of one text at most. -/
theorem base64decode_inverts :
    (∀ s, ∃ t, Gives "base64encode" [.string s] (.ok (.string t)) ∧
      Gives "base64decode" [.string t] (.ok (.string s))) ∧
    (∀ t r, Gives "base64decode" [.string t] (.ok r) ↔
      ∃ s, r = .string s ∧ Gives "base64encode" [.string s] (.ok (.string t))) ∧
    (∀ t bytes, Text.Base64.encode bytes = t.toList → (¬∃ s, Text.bytes s = bytes) →
      Gives "base64decode" [.string t] (.error (.function "base64decode" .notText))) ∧
    (∀ t, (¬∃ bytes, Text.Base64.encode bytes = t.toList) →
      Gives "base64decode" [.string t] (.error (.function "base64decode" .unreadable))) := by
  refine ⟨fun s => ?_, fun t r => ?_, fun t bytes h hbytes => ?_, fun t h => ?_⟩
  · refine ⟨_, gives_base64encode s, gives_base64decode_iff.mpr ⟨s, rfl, ?_⟩⟩
    rw [String.toList_ofList]
  · simp only [gives_base64decode_iff, gives_base64encode_iff]
  · rw [(gives_base64decode t).result_iff, ← h, decoded_of_notText hbytes]
    rfl
  · rw [(gives_base64decode t).result_iff, decoded_of_unreadable h]
    rfl

/-- The two bytes of one character, with the filler behind them. The byte `0xFF` is in no text. -/
theorem base64decode_inverts_two_bytes :
    Gives "base64encode" [.string "ä"] (.ok (.string "w6Q=")) ∧
    Gives "base64decode" [.string "w6Q="] (.ok (.string "ä")) ∧
    Gives "base64decode" [.string "w6Q"] (.error (.function "base64decode" .unreadable)) ∧
    Gives "base64decode" [.string "/w=="] (.error (.function "base64decode" .notText)) := by
  have hnone : ¬∃ bytes, Text.Base64.encode bytes = "w6Q".toList := by
    rintro ⟨bytes, h⟩
    cases Text.Base64.decode?_eq_some_iff.mpr h
  have hbyte : ¬∃ s, Text.bytes s = [0xFF] := by
    rintro ⟨s, h⟩
    cases Text.Base64.textOfBytes?_eq_some_iff.mpr h
  obtain ⟨hinverse, -, hnotText, hunreadable⟩ := base64decode_inverts
  obtain ⟨t, hencode, hdecode⟩ := hinverse "ä"
  obtain rfl : t = "w6Q=" := by
    cases hencode.unique (gives_base64encode "ä")
    decide
  exact ⟨hencode, hdecode, hunreadable _ hnone, hnotText _ [0xFF] (by decide) hbyte⟩

end Formula.Builtin.Texts
