import Formula.Proofs.Builtin.Bounded
import Formula.Proofs.Builtin.Pieces

set_option autoImplicit false

/-!
# Positions in texts

All that picks characters by their positions counts characters, and fails for the same positions.

## Main definitions

* `Formula.Builtin.Texts.cutOut` — the characters from one position up to another.
* `Formula.Bounded.substring?` — the same, computed within 64 bits.

## Main results

* `Formula.Builtin.Texts.positions_agree` — indexing, `substring`, `split` and `len` agree.
-/

namespace Formula

namespace Value

/-- Integers up to `2 ^ 53` are numbers, and are read as themselves.

**Proof sketch.** The greatest of them has one bit more than the others, so it is treated as a power of
two. -/
lemma toInteger_ofInt_of_le {i : Int} {operation : String} (h : -2 ^ 53 ≤ i ∧ i ≤ 2 ^ 53) :
    (ofInt i).toInteger operation = .ok i := by
  by_cases hgreatest : i = 2 ^ 53
  · obtain ⟨hfinite, hvalue⟩ := Double.value_ofInt (i := 1) (k := 53) (by decide) (by decide)
    rw [one_mul, ← hgreatest] at hfinite hvalue
    refine toInteger_of_denotes ⟨_, rfl, hfinite, hvalue.trans ?_⟩ ⟨by omega, by omega⟩
    rw [hgreatest]
    norm_num
  · exact toInteger_ofInt ⟨h.1, by omega⟩

/-- Such an integer is a position. -/
lemma position_ofInt {i : Int} (h : -2 ^ 53 ≤ i ∧ i ≤ 2 ^ 53) : (ofInt i).position = .ok i :=
  toInteger_ofInt_of_le h

/-- The element of a text at such a position is the character there. -/
lemma element_string_ofInt {i : Int} (h : -2 ^ 53 ≤ i ∧ i ≤ 2 ^ 53) (s : String) :
    (string s).element (ofInt i) = (entryAt s.toList i).map fun c => ofChars [c] := by
  show ((ofInt i).position >>= fun p => entryAt s.toList p >>= fun c => .ok (ofChars [c])) = _
  rw [position_ofInt h]
  show (entryAt s.toList i >>= fun c => .ok (ofChars [c])) = _
  cases entryAt s.toList i <;> rfl

/-- The element of an array at such a position is the item there. -/
lemma element_array_ofInt {i : Int} (h : -2 ^ 53 ≤ i ∧ i ≤ 2 ^ 53) (items : List Value) :
    (array items).element (ofInt i) = entryAt items i :=
  element_array_of_position items (position_ofInt h)

end Value

namespace Builtin.Texts

variable {s : String} {cs : List Char} {start stop : Value} {i j : Int}

/-! ## What is cut out -/

/-- The characters from one position on up to another, which is drawn in if it lies behind the end. -/
def cutOut (cs : List Char) (start stop : Int) : Except EvalError (List Char) :=
  if start < 0 ∨ cs.length < start then .error (.indexOutOfBounds start cs.length)
  else if min stop cs.length < start then
    .error (.function "substring" (.endBeforeStart (min stop cs.length) start))
  else .ok ((cs.take (min stop cs.length).toNat).drop start.toNat)

/-- Once the arguments are read, the characters between the positions are cut out.

**Proof sketch.** The function asks for the same two conditions, one after the other. -/
lemma substring_eq {args : List Value} (hchars : Argument.chars "substring" args 0 = .ok cs)
    (hstart : Argument.integer "substring" args 1 = .ok i)
    (hstop : Argument.orElse Argument.integer cs.length "substring" args 2 = .ok j) :
    substring args = (cutOut cs i j).map .ofChars := by
  rw [substring, hchars]
  simp only [bind, Except.bind, hstart, hstop, cutOut]
  by_cases hout : i < 0 ∨ cs.length < i
  · rw [if_pos hout, if_pos hout]
    rfl
  · rw [if_neg hout, if_neg hout]
    by_cases hbefore : min j cs.length < i
    · rw [if_pos hbefore, if_pos hbefore]
      rfl
    · rw [if_neg hbefore, if_neg hbefore]
      rfl

/-- The function `substring` with a start gives what is cut out from there to the end. -/
lemma gives_substring (h : start.toInteger "substring" = .ok i) :
    Gives "substring" [.string s, start] ((cutOut s.toList i s.length).map .ofChars) := by
  rw [← String.length_toList]
  exact gives_plain rfl rfl (substring_eq rfl h rfl)

/-- The function `substring` with a start and a stop gives what is cut out between them. -/
lemma gives_substring_stop (h : start.toInteger "substring" = .ok i)
    (hstop : stop.toInteger "substring" = .ok j) :
    Gives "substring" [.string s, start, stop] ((cutOut s.toList i j).map .ofChars) :=
  gives_plain rfl rfl (substring_eq rfl h hstop)

/-- From outside a text nothing is cut out. -/
lemma cutOut_of_outside (h : i < 0 ∨ cs.length < i) :
    cutOut cs i j = .error (.indexOutOfBounds i cs.length) :=
  if_pos h

/-- What is cut out up to a later position. -/
lemma cutOut_of_le (hi : 0 ≤ i) (hle : i ≤ cs.length) (h : i ≤ j) :
    cutOut cs i j = .ok ((cs.take (min j cs.length).toNat).drop i.toNat) := by
  rw [cutOut, if_neg (by omega), if_neg (by omega)]

/-- Up to an earlier position nothing is cut out. -/
lemma cutOut_of_lt (hi : 0 ≤ i) (hle : i ≤ cs.length) (h : j < i) :
    cutOut cs i j = .error (.function "substring" (.endBeforeStart j i)) := by
  rw [cutOut, if_neg (by omega), if_pos (by omega), min_eq_left (by omega)]

/-- Between neighbouring positions there is one character. -/
lemma cutOut_succ {c : Char} (hi : 0 ≤ i) (h : cs[i.toNat]? = some c) :
    cutOut cs i (i + 1) = .ok [c] := by
  obtain ⟨hlt, rfl⟩ := List.getElem?_eq_some_iff.mp h
  have hstop : (min (i + 1) cs.length).toNat = i.toNat + 1 := by omega
  rw [cutOut_of_le hi (by omega) (by omega), hstop, List.drop_take, Nat.add_sub_cancel_left,
    List.drop_eq_getElem_cons hlt]
  rfl

/-- Only positions outside are refused as such. -/
lemma cutOut_eq_outOfBounds_iff :
    cutOut cs i j = .error (.indexOutOfBounds i cs.length) ↔ i < 0 ∨ cs.length < i := by
  refine ⟨fun h => ?_, cutOut_of_outside⟩
  by_contra hout
  rw [cutOut, if_neg hout] at h
  split at h <;> cases h

/-- The function `substring` refuses a start exactly if it lies outside the text.

**Proof sketch.** What it gives is what is cut out, and that is refused for this reason exactly if the
start lies outside (`cutOut_eq_outOfBounds_iff`). -/
lemma gives_outOfBounds_iff (h : start.toInteger "substring" = .ok i) :
    Gives "substring" [.string s, start] (.error (.indexOutOfBounds i s.toList.length)) ↔
      i < 0 ∨ s.toList.length < i := by
  have hgives := gives_substring (s := s) h
  constructor
  · intro hrefused
    have heq := hgives.unique hrefused
    cases hcut : cutOut s.toList i s.length with
    | ok part =>
      rw [hcut] at heq
      cases heq
    | error e =>
      rw [hcut] at heq
      exact cutOut_eq_outOfBounds_iff.mp (hcut.trans (congrArg _ (Except.error.inj heq)))
  · intro hout
    rwa [cutOut_of_outside hout] at hgives

end Builtin.Texts

/-! ## Within 64 bits -/

/-- The characters from one position on up to another: first those before it are passed over, then as many are
taken as the positions are apart. -/
def Bounded.substring? (cs : List Char) (start stop : Int) :
    Option (Except EvalError (List Char)) := do
  let length ← word? cs.length
  let stop := min stop length
  if start < 0 ∨ length < start then return .error (.indexOutOfBounds start cs.length)
  if stop < start then return .error (.function "substring" (.endBeforeStart stop start))
  let count ← word? (stop - start)
  return .ok ((cs.drop (← count? start)).take (← count? count))

/-- The positions are at most as far apart as the text is long.

**Proof sketch.** The same two conditions are asked for. When both are met, the distance is not negative
and within 64 bits, and dropping before taking gives the same characters. -/
lemma Bounded.substring?_eq {cs : List Char} (h : cs.length < 2 ^ 63) (i j : Int) :
    substring? cs i j = some (Builtin.Texts.cutOut cs i j) := by
  rw [substring?, word?_length h, some_bind, Builtin.Texts.cutOut]
  by_cases hout : i < 0 ∨ cs.length < i
  · rw [if_pos hout, if_pos hout]
    rfl
  · rw [if_neg hout, if_neg hout]
    by_cases hbefore : min j cs.length < i
    · rw [if_pos hbefore, if_pos hbefore]
      rfl
    · obtain ⟨hi, -⟩ := not_or.mp hout
      have hcount : (min j cs.length - i).toNat = (min j cs.length).toNat - i.toNat := by omega
      rw [if_neg hbefore, if_neg hbefore, word?_of_mem ⟨by omega, by omega⟩, some_bind,
        count?_of_nonneg (not_lt.mp hi), some_bind, count?_of_nonneg (by omega), some_bind,
        List.drop_take, hcount]
      rfl

namespace Builtin.Texts

variable {s : String} {stop : Value} {i j : Int}

/-! ## Positions -/

/-- The characters of a text, each as a text. -/
def characters (s : String) : List Value :=
  s.toList.map fun c => .ofChars [c]

/-- The function `split` with nothing as the separator gives the characters. -/
lemma gives_split_characters (s : String) :
    Gives "split" [.string s, .string ""] (.ok (.array (characters s))) := by
  have h := gives_split s ""
  rwa [show "".toList = [] from rfl, splitAt_nil (by decide), List.map_map] at h

/-- The function `len` of a text gives the number of its characters. -/
lemma gives_len (s : String) : Gives "len" [.string s] (.ok (.ofNat s.length)) :=
  gives_of_body (f := General.len) rfl rfl rfl rfl

/-- A place within a text is that of a character, which is what all that picks single characters gives.

**Proof sketch.** The position is an integer that numbers represent, so each way of picking a character
is given the same place. -/
lemma characters_agree (h : |i| ≤ 2 ^ 53) (hi : 0 ≤ i) (hlt : i < s.length) :
    ∃ c, s.toList[i.toNat]? = some c ∧
      (Value.string s).element (.ofInt i) = .ok (.ofChars [c]) ∧
      (∀ stop : Value, stop.toInteger "substring" = .ok (i + 1) →
        Gives "substring" [.string s, .ofInt i, stop] (.ok (.ofChars [c]))) ∧
      (Value.array (characters s)).element (.ofInt i) = .ok (.ofChars [c]) := by
  rw [abs_le] at h
  have hplace : i.toNat < s.toList.length := by
    rw [String.length_toList]
    omega
  have hget := List.getElem?_eq_getElem hplace
  refine ⟨_, hget, ?_, fun stop hstop => ?_, ?_⟩
  · rw [Value.element_string_ofInt h, Value.entryAt_eq_ok_iff.mpr ⟨hi, hget⟩]
    rfl
  · have hgives := gives_substring_stop (s := s) (Value.toInteger_ofInt_of_le h) hstop
    rwa [cutOut_succ hi hget] at hgives
  · rw [Value.element_array_ofInt h, Value.entryAt_eq_ok_iff.mpr ⟨hi, ?_⟩]
    rw [characters, List.getElem?_map, hget]
    rfl

/-- A text is put together again from what is cut out before a position and from there on.

**Proof sketch.** The first part takes as many characters as the second one drops. -/
lemma substring_append (h : |i| ≤ 2 ^ 53) (hi : 0 ≤ i) (hle : i ≤ s.length) :
    ∃ front back : String, Gives "substring" [.string s, .ofInt 0, .ofInt i] (.ok (.string front)) ∧
      Gives "substring" [.string s, .ofInt i] (.ok (.string back)) ∧
      BinaryOperator.add.apply (.string front) (.string back) = .ok (.string s) := by
  rw [abs_le] at h
  rw [← String.length_toList] at hle
  have hfront := gives_substring_stop (s := s) (Value.toInteger_ofInt_of_le (i := 0) (by decide))
    (Value.toInteger_ofInt_of_le h)
  have hback := gives_substring (s := s) (Value.toInteger_ofInt_of_le h)
  rw [cutOut_of_le le_rfl (by omega) hi, min_eq_left hle] at hfront
  rw [← String.length_toList, cutOut_of_le hi hle hle, min_self, Int.toNat_natCast,
    List.take_length] at hback
  refine ⟨_, _, hfront, hback, ?_⟩
  show Except.ok (Value.string (String.ofList (s.toList.take i.toNat) ++
    String.ofList (s.toList.drop i.toNat))) = _
  rw [← String.ofList_append, List.take_append_drop, String.ofList_toList]

/-- What is cut out from a position on, up to a later or an earlier one.

**Proof sketch.** Both cases are what is cut out, and the length of the part is that of a piece of a
list. -/
lemma substring_of_stop (h : |i| ≤ 2 ^ 53) (hi : 0 ≤ i) (hle : i ≤ s.length)
    (hstop : stop.toInteger "substring" = .ok j) :
    (i ≤ j → ∃ part : String,
      Gives "substring" [.string s, .ofInt i, stop] (.ok (.string part)) ∧
      part.length = min j s.length - i) ∧
    (j < i → Gives "substring" [.string s, .ofInt i, stop]
      (.error (.function "substring" (.endBeforeStart j i)))) := by
  rw [abs_le] at h
  rw [← String.length_toList] at hle ⊢
  have hgives := gives_substring_stop (s := s) (Value.toInteger_ofInt_of_le h) hstop
  refine ⟨fun hij => ?_, fun hji => ?_⟩
  · rw [cutOut_of_le hi hle hij] at hgives
    refine ⟨_, hgives, ?_⟩
    rw [String.length_ofList, List.length_drop, List.length_take]
    omega
  · rwa [cutOut_of_lt hi hle hji] at hgives

/-- The same is given when every step keeps within 64 bits, if the length of the text does.

**Proof sketch.** Each of the computations with 64 bits is the one without, for a text that is short
enough. -/
lemma bounded_positions (h : |i| ≤ 2 ^ 53) (hs : s.length < 2 ^ 63) :
    (∃ r, Bounded.item? s.toList i = some r ∧
      (Value.string s).element (.ofInt i) = r.map fun c => .ofChars [c]) ∧
    (∃ r, Bounded.item? (characters s) i = some r ∧
      (Value.array (characters s)).element (.ofInt i) = r) ∧
    (∃ r, Bounded.substring? s.toList i s.length = some r ∧
      Gives "substring" [.string s, .ofInt i] (r.map .ofChars)) ∧
    ∀ (stop : Value) (j : Int), stop.toInteger "substring" = .ok j →
      ∃ r, Bounded.substring? s.toList i j = some r ∧
        Gives "substring" [.string s, .ofInt i, stop] (r.map .ofChars) := by
  rw [abs_le] at h
  rw [← String.length_toList] at hs
  have hcharacters : (characters s).length < 2 ^ 63 := by rwa [characters, List.length_map]
  have hstart : (Value.ofInt i).toInteger "substring" = .ok i := Value.toInteger_ofInt_of_le h
  exact ⟨⟨_, Bounded.item?_eq hs i, Value.element_string_ofInt h s⟩,
    ⟨_, Bounded.item?_eq hcharacters i, Value.element_array_ofInt h _⟩,
    ⟨_, Bounded.substring?_eq hs i _, gives_substring hstart⟩,
    fun stop j hstop => ⟨_, Bounded.substring?_eq hs i j, gives_substring_stop hstart hstop⟩⟩

/-- **Positions in texts count characters, and all that takes them agrees.** For every text and every
integer of at most `2 ^ 53` in absolute value, taken for a position:

1. The length of the text is the number of its characters, and an empty separator splits it into these.
2. If the position is that of a character, this character is what indexing the text, indexing its pieces and
   `substring` up to the next position give. Otherwise indexing fails with the position and the length.
3. `substring` from the position on fails in this way exactly if the position is negative or greater than
   the length.
4. If it is neither, what is cut out before it and from it on makes up the text; up to a position that is not
   smaller, as many characters are cut out as the positions are apart, the end of the text being the greatest
   position; and up to a smaller one `substring` fails.
5. If the length of the text is an integer of 64 bits, so is all that is computed on the way.

**Proof sketch.** All of them go by the list of the characters. What `substring` gives is what stands
in this list between the positions, once the second one is drawn in. -/
theorem positions_agree (s : String) (h : |i| ≤ 2 ^ 53) :
    Gives "len" [.string s] (.ok (.ofNat s.length)) ∧
    Gives "split" [.string s, .string ""] (.ok (.array (characters s))) ∧
    (0 ≤ i → i < s.length → ∃ c, s.toList[i.toNat]? = some c ∧
      (Value.string s).element (.ofInt i) = .ok (.ofChars [c]) ∧
      (∀ stop : Value, stop.toInteger "substring" = .ok (i + 1) →
        Gives "substring" [.string s, .ofInt i, stop] (.ok (.ofChars [c]))) ∧
      (Value.array (characters s)).element (.ofInt i) = .ok (.ofChars [c])) ∧
    (i < 0 ∨ s.length ≤ i →
      (Value.string s).element (.ofInt i) = .error (.indexOutOfBounds i s.length)) ∧
    (Gives "substring" [.string s, .ofInt i] (.error (.indexOutOfBounds i s.length)) ↔
      i < 0 ∨ s.length < i) ∧
    (0 ≤ i → i ≤ s.length →
      (∃ front back : String,
        Gives "substring" [.string s, .ofInt 0, .ofInt i] (.ok (.string front)) ∧
        Gives "substring" [.string s, .ofInt i] (.ok (.string back)) ∧
        BinaryOperator.add.apply (.string front) (.string back) = .ok (.string s)) ∧
      ∀ (stop : Value) (j : Int), stop.toInteger "substring" = .ok j →
        (i ≤ j → ∃ part : String,
          Gives "substring" [.string s, .ofInt i, stop] (.ok (.string part)) ∧
          Gives "len" [.string part] (.ok (.ofNat part.length)) ∧
          part.length = min j s.length - i) ∧
        (j < i → Gives "substring" [.string s, .ofInt i, stop]
          (.error (.function "substring" (.endBeforeStart j i))))) ∧
    (s.length < 2 ^ 63 →
      (∃ r, Bounded.item? s.toList i = some r ∧
        (Value.string s).element (.ofInt i) = r.map fun c => .ofChars [c]) ∧
      (∃ r, Bounded.item? (characters s) i = some r ∧
        (Value.array (characters s)).element (.ofInt i) = r) ∧
      (∃ r, Bounded.substring? s.toList i s.length = some r ∧
        Gives "substring" [.string s, .ofInt i] (r.map .ofChars)) ∧
      ∀ (stop : Value) (j : Int), stop.toInteger "substring" = .ok j →
        ∃ r, Bounded.substring? s.toList i j = some r ∧
          Gives "substring" [.string s, .ofInt i, stop] (r.map .ofChars)) := by
  refine ⟨gives_len s, gives_split_characters s, characters_agree h, ?outside, ?refused,
    fun hi hle => ⟨substring_append h hi hle, fun stop j hstop => ?_⟩, bounded_positions h⟩
  case outside =>
    intro hout
    rw [← String.length_toList] at hout ⊢
    rw [Value.element_string_ofInt (abs_le.mp h), Value.entryAt_of_outside hout]
    rfl
  case refused =>
    rw [← String.length_toList]
    exact gives_outOfBounds_iff (Value.toInteger_ofInt_of_le (abs_le.mp h))
  · obtain ⟨hlater, hearlier⟩ := substring_of_stop h hi hle hstop
    refine ⟨fun hij => ?_, hearlier⟩
    obtain ⟨part, hpart, hlength⟩ := hlater hij
    exact ⟨part, hpart, gives_len part, hlength⟩

/-- Positions in a text whose characters take one, two and four bytes.

**Proof sketch.** The text has four characters, so the general theorem applies to the positions in it,
and the character is found by evaluation. -/
theorem positions_agree_bytes :
    |(2 : Int)| ≤ 2 ^ 53 ∧
    (Value.string "aé😀b").element (.ofInt 2) = .ok (.string "😀") ∧
    Gives "substring" [.string "aé😀b", .ofInt 2, .ofInt 3] (.ok (.string "😀")) ∧
    ∃ part : String, Gives "substring" [.string "aé😀b", .ofInt 2, .ofInt 9] (.ok (.string part)) ∧
      part.length = 2 := by
  have htwo : |(2 : Int)| ≤ 2 ^ 53 := by decide
  obtain ⟨-, -, hcharacter, -, -, hcut, -⟩ := positions_agree "aé😀b" htwo
  obtain ⟨c, hc, helement, hnext, -⟩ := hcharacter (by decide) (by decide)
  obtain rfl : c = '😀' := (Option.some.inj hc).symm
  obtain ⟨part, hpart, -, hlength⟩ :=
    ((hcut (by decide) (by decide)).2 (.ofInt 9) 9 (Value.toInteger_ofInt (by decide))).1 (by decide)
  exact ⟨htwo, helement, hnext _ (Value.toInteger_ofInt (by decide)), part, hpart,
    Int.ofNat.inj hlength⟩

end Builtin.Texts

end Formula
