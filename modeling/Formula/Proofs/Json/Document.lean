import Formula.Proofs.Json.Number
import Formula.Proofs.Json.Text
import Formula.Value.Text
import Mathlib.Data.List.DropRight

set_option autoImplicit false

/-!
# Rules for reading JSON documents

What a text is read as follows from what its parts are read as: one rule for each kind of document, for
the last item of an array and for an item with more items behind it, and the same for objects.

## Main definitions

* `Formula.Json.Reads` — a text is read as a document of a value.
* `Formula.Json.ReadsItems`, `Formula.Json.ReadsMembers` — it is read as what stands between brackets
  or braces.

## Main results

* `Formula.Json.reads_number` — a number is read in front of whatever may follow a value.
* `Formula.Json.ReadsItems.array`, `Formula.Json.ReadsMembers.object` — brackets and braces around
  what is read.
* `Formula.Json.ofText?_eq_number_iff` — which texts are documents of a number.
-/

namespace Formula.Json

variable {fuel depth : Nat} {cs rest : List Char} {v : Value}

attribute [local simp] value? items? members?

/-! ## Blanks -/

/-- A text that begins with no blank has none to skip. -/
lemma skipBlanks_cons {c : Char} (h : isBlank c = false) (cs : List Char) :
    skipBlanks (c :: cs) = c :: cs := by
  rw [skipBlanks, List.dropWhile_cons_of_neg (by simp [h])]

/-- No blanks are left to skip behind skipped blanks. -/
lemma skipBlanks_skipBlanks (cs : List Char) : skipBlanks (skipBlanks cs) = skipBlanks cs :=
  List.dropWhile_idempotent ..

/-- Blanks are skipped up to what follows. -/
lemma skipBlanks_append_of_eq_nil (h : skipBlanks cs = []) (rest : List Char) :
    skipBlanks (cs ++ rest) = skipBlanks rest := by
  rw [skipBlanks, List.dropWhile_append, if_pos (by rw [← skipBlanks, h]; rfl), ← skipBlanks]

/-- Blanks in front of a text with something else are skipped, whatever stands behind it. -/
lemma skipBlanks_append_of_ne_nil (h : skipBlanks cs ≠ []) (rest : List Char) :
    skipBlanks (cs ++ rest) = skipBlanks cs ++ rest := by
  rw [skipBlanks, List.dropWhile_append, if_neg (by rw [← skipBlanks]; simpa using h), ← skipBlanks]

/-- Blanks in front of a document do not matter. -/
lemma value?_skipBlanks (fuel depth : Nat) (cs : List Char) :
    value? fuel depth (skipBlanks cs) = value? fuel depth cs := by
  cases fuel with
  | zero => rfl
  | succ fuel => simp only [value?, skipBlanks_skipBlanks]

/-- Blanks in front of items do not matter. -/
lemma items?_skipBlanks (fuel depth : Nat) (cs : List Char) :
    items? fuel depth (skipBlanks cs) = items? fuel depth cs := by
  cases fuel with
  | zero => rfl
  | succ fuel => simp only [items?, value?_skipBlanks]

/-- Blanks in front of members do not matter. -/
lemma members?_skipBlanks (fuel depth : Nat) (cs : List Char) :
    members? fuel depth (skipBlanks cs) = members? fuel depth cs := by
  cases fuel with
  | zero => rfl
  | succ fuel => simp only [members?, skipBlanks_skipBlanks]

/-- No blank begins the text of a string. -/
lemma skipBlanks_stringText (s : String) (cs : List Char) :
    skipBlanks ((stringText s).toList ++ cs) = (stringText s).toList ++ cs := by
  rw [stringText, String.toList_ofList, List.cons_append, skipBlanks_cons rfl]

/-! ## Numbers -/

/-- A number begins with a digit or a minus sign, and with no other character.

**Proof sketch.** With any other first character nothing is read as a number. -/
lemma exists_cons_of_number? {n : JsonNumber} (h : number? cs = some (n, rest)) :
    ∃ c more, cs = c :: more ∧ ∀ d : Char, d.isDigit = false → d ≠ '-' → c ≠ d := by
  cases cs with
  | nil => cases h
  | cons c more =>
    refine ⟨c, more, rfl, ?_⟩
    rintro d hdigit hminus rfl
    simp [number?, hminus, unsigned?, hdigit] at h

/-- No blank begins a number. -/
lemma skipBlanks_of_number? {n : JsonNumber} (h : number? cs = some (n, rest)) :
    skipBlanks cs = cs := by
  obtain ⟨c, more, rfl, hne⟩ := exists_cons_of_number? h
  exact skipBlanks_cons (by simp [isBlank, hne]) more

/-- What begins as a number is read as a number. -/
lemma value?_of_number? {n : JsonNumber} (h : number? (skipBlanks cs) = some (n, rest)) :
    value? (fuel + 1) depth cs = some (.number n, rest) := by
  obtain ⟨c, more, hcs, hne⟩ := exists_cons_of_number? h
  rw [hcs] at h
  rw [value?, hcs]
  simp [h, hne]

/-- What is read as a number begins as one.

**Proof sketch.** The first character says what kind of document is read. In each case but the last one
it is no number. -/
lemma number?_of_value? {n : JsonNumber} (h : value? fuel depth cs = some (.number n, rest)) :
    number? (skipBlanks cs) = some (n, rest) := by
  cases fuel with
  | zero => cases h
  | succ fuel =>
    rw [value?] at h
    split at h
    · cases h
    · cases h
    · cases h
    · simp at h
    · split at h
      · cases h
      · split at h
        · cases h
        · simp at h
    · split at h
      · cases h
      · split at h
        · cases h
        · simp at h
    · simpa using h

/-- No items begin with a closing bracket.

**Proof sketch.** The first item would begin with the bracket, and no document does. -/
lemma skipBlanks_ne_of_items? {read : List Json × List Char} (h : items? fuel depth cs = some read)
    (more : List Char) : skipBlanks cs ≠ ']' :: more := by
  intro hcs
  cases fuel with
  | zero => cases h
  | succ fuel =>
    cases fuel with
    | zero => cases h
    | succ fuel =>
      rw [items?, value?, hcs] at h
      cases h

/-- No members begin with a closing brace.

**Proof sketch.** The first member would begin with the brace, and a member begins with its name. -/
lemma skipBlanks_ne_of_members? {read : List (String × Json) × List Char}
    (h : members? fuel depth cs = some read) (more : List Char) : skipBlanks cs ≠ '\x7d' :: more := by
  intro hcs
  cases fuel with
  | zero => cases h
  | succ fuel =>
    rw [members?, hcs] at h
    cases h

/-! ## Rules -/

/-- The text is read as a document of `v`, and blanks apart `rest` is left. -/
def Reads (fuel depth : Nat) (cs : List Char) (v : Value) (rest : List Char) : Prop :=
  ∃ j left, value? fuel depth cs = some (j, left) ∧ Value.ofJson j = v ∧
    skipBlanks left = skipBlanks rest

/-- The text is read as documents of `items` and a closing bracket, and `rest` is left. -/
def ReadsItems (fuel depth : Nat) (cs : List Char) (items : List Value) (rest : List Char) : Prop :=
  ∃ js, items? fuel depth cs = some (js, rest) ∧ Value.itemsOfJson js = items

/-- The text is read as members with documents of `fields` and a closing brace, and `rest` is left. -/
def ReadsMembers (fuel depth : Nat) (cs : List Char) (fields : List (String × Value))
    (rest : List Char) : Prop :=
  ∃ js, members? fuel depth cs = some (js, rest) ∧ Value.membersOfJson js = fields

section Rules

variable {items : List Value} {fields : List (String × Value)}

/-- The document of null. -/
lemma reads_null : Reads (fuel + 1) depth ("null".toList ++ rest) .null rest :=
  ⟨.null, rest, rfl, rfl, rfl⟩

/-- The documents of the booleans. -/
lemma reads_bool (b : Bool) :
    Reads (fuel + 1) depth ((if b then "true" else "false").toList ++ rest) (.bool b) rest := by
  cases b
  · exact ⟨.bool false, rest, rfl, rfl, rfl⟩
  · exact ⟨.bool true, rest, rfl, rfl, rfl⟩

/-- The document of a text.

**Proof sketch.** No blank is skipped in front of the quote, and the characters behind it are read back
(`string?_stringText`). -/
lemma reads_string (s : String) :
    Reads (fuel + 1) depth ((stringText s).toList ++ rest) (.string s) rest := by
  have hread := string?_stringText s rest
  refine ⟨.string s, rest, ?_, rfl, rfl⟩
  rw [value?, skipBlanks_stringText]
  rw [stringText, String.toList_ofList, List.cons_append] at hread ⊢
  simp only
  rw [hread]
  rfl

/-- A number is read in front of whatever may follow a value.

**Proof sketch.** What may follow a value does not go on a number, so the same number is read
(`number?_append`). The blanks behind it are all that is left of its text. -/
lemma reads_number {n : JsonNumber} {left : List Char} (h : number? (skipBlanks cs) = some (n, left))
    (hleft : skipBlanks left = []) (hrest : Ends rest) :
    Reads (fuel + 1) depth (cs ++ rest) (.number n.toDouble) rest := by
  have hne : skipBlanks cs ≠ [] := by
    obtain ⟨c, more, hcs, -⟩ := exists_cons_of_number? h
    rw [hcs]
    exact List.cons_ne_nil c more
  refine ⟨.number n, left ++ rest, value?_of_number? ?_, rfl, skipBlanks_append_of_eq_nil hleft rest⟩
  rw [skipBlanks_append_of_ne_nil hne, number?_append hrest, h]
  rfl

/-- The last item is read up to the closing bracket.

**Proof sketch.** The item is read, and blanks apart the closing bracket is left. -/
lemma Reads.items_last (h : Reads fuel depth cs v (']' :: rest)) :
    ReadsItems (fuel + 1) depth cs [v] rest := by
  obtain ⟨j, left, hread, rfl, hleft⟩ := h
  refine ⟨[j], ?_, rfl⟩
  rw [items?, hread]
  simp only
  rw [hleft, skipBlanks_cons rfl]
  rfl

/-- An item is read up to a comma, and more items behind it.

**Proof sketch.** The item is read, and blanks apart the comma is left. Behind it the other items are
read. -/
lemma Reads.items_more {more : List Char} (h : Reads fuel depth cs v (',' :: more))
    (hmore : ReadsItems fuel depth more items rest) :
    ReadsItems (fuel + 1) depth cs (v :: items) rest := by
  obtain ⟨j, left, hread, rfl, hleft⟩ := h
  obtain ⟨js, hitems, rfl⟩ := hmore
  refine ⟨j :: js, ?_, rfl⟩
  rw [items?, hread]
  simp only
  rw [hleft, skipBlanks_cons rfl]
  simp only
  rw [hitems]
  rfl

/-- The document of the empty array. -/
lemma reads_array_nil : Reads (fuel + 1) (depth + 1) ("[]".toList ++ rest) (.array []) rest :=
  ⟨.array [], rest, rfl, rfl, rfl⟩

/-- Brackets around items that are read.

**Proof sketch.** The bracket opens an array with a level to spare. It is not the empty one, since no
items begin with a closing bracket, so the items are read. -/
lemma ReadsItems.array (h : ReadsItems fuel depth cs items rest) :
    Reads (fuel + 1) (depth + 1) ('[' :: cs) (.array items) rest := by
  obtain ⟨js, hitems, rfl⟩ := h
  refine ⟨.array js, rest, ?_, rfl, rfl⟩
  rw [value?, skipBlanks_cons rfl]
  simp only
  rw [if_neg (Nat.succ_ne_zero depth), Nat.add_sub_cancel]
  split
  · next hcs => exact absurd hcs (skipBlanks_ne_of_items? hitems _)
  · rw [items?_skipBlanks, hitems]
    rfl

/-- The last member is read up to the closing brace. -/
lemma Reads.members_last (name : String) (h : Reads fuel depth cs v ('\x7d' :: rest)) :
    ReadsMembers (fuel + 1) depth ((stringText name).toList ++ ':' :: cs) [(name, v)] rest := by
  obtain ⟨j, left, hread, rfl, hleft⟩ := h
  refine ⟨[(name, j)], ?_, rfl⟩
  simp [skipBlanks_stringText, string?_stringText, skipBlanks_cons, isBlank, hread, hleft]

/-- A member is read up to a comma, and more members behind it. -/
lemma Reads.members_more (name : String) {more : List Char}
    (h : Reads fuel depth cs v (',' :: more)) (hmore : ReadsMembers fuel depth more fields rest) :
    ReadsMembers (fuel + 1) depth ((stringText name).toList ++ ':' :: cs) ((name, v) :: fields)
      rest := by
  obtain ⟨j, left, hread, rfl, hleft⟩ := h
  obtain ⟨js, hmembers, rfl⟩ := hmore
  refine ⟨(name, j) :: js, ?_, rfl⟩
  simp [skipBlanks_stringText, string?_stringText, skipBlanks_cons, isBlank, hread, hleft,
    hmembers]

/-- The document of the empty map. -/
lemma reads_object_nil : Reads (fuel + 1) (depth + 1) ("\x7b\x7d".toList ++ rest) (.map []) rest :=
  ⟨.object [], rest, rfl, rfl, rfl⟩

/-- Braces around members that are read.

**Proof sketch.** The brace opens a map with a level to spare. It is not the empty one, since no members
begin with a closing brace, so the members are read. -/
lemma ReadsMembers.object (h : ReadsMembers fuel depth cs fields rest) :
    Reads (fuel + 1) (depth + 1) ('\x7b' :: cs) (.map (Record.ofList fields)) rest := by
  obtain ⟨js, hmembers, rfl⟩ := h
  refine ⟨.object js, rest, ?_, rfl, rfl⟩
  rw [value?, skipBlanks_cons rfl]
  simp only
  rw [if_neg (Nat.succ_ne_zero depth), Nat.add_sub_cancel]
  split
  · next hcs => exact absurd hcs (skipBlanks_ne_of_members? hmembers _)
  · rw [members?_skipBlanks, hmembers]
    rfl

/-- A text that is read up to its end is a document. -/
lemma Reads.ofText? {s : String} (h : Reads (2 * s.toList.length + 2) greatestDepth s.toList v []) :
    (Json.ofText? s).map Value.ofJson = some v := by
  obtain ⟨j, left, hread, rfl, hleft⟩ := h
  rw [Json.ofText?, ofChars?, hread]
  simp only
  rw [hleft]
  rfl

/-- A text is a document of a number exactly if it begins as the number and only blanks are left.

**Proof sketch.** What is read as a number begins as one (`number?_of_value?`), and a document is read
if only blanks are left behind it. Conversely what begins as a number is read as one
(`value?_of_number?`). -/
lemma ofText?_eq_number_iff {s : String} {x : Double} :
    (ofText? s).map Value.ofJson = some (.number x) ↔
      ∃ n left, number? (skipBlanks s.toList) = some (n, left) ∧ skipBlanks left = [] ∧
        n.toDouble = x := by
  constructor
  · intro h
    obtain ⟨j, hj, hx⟩ := Option.map_eq_some_iff.mp h
    rw [ofText?, ofChars?] at hj
    split at hj
    · next j' left hvalue =>
      split at hj
      · next hleft =>
        cases hj
        cases j with
        | number n => exact ⟨n, left, number?_of_value? hvalue, hleft, by injection hx⟩
        | null | bool | string | array | object => cases hx
      · cases hj
    · cases hj
  · rintro ⟨n, left, hnumber, hleft, rfl⟩
    have hread : Reads (2 * s.toList.length + 1 + 1) greatestDepth (s.toList ++ [])
        (.number n.toDouble) [] :=
      reads_number hnumber hleft ends_nil
    rw [List.append_nil] at hread
    exact hread.ofText?

end Rules

end Formula.Json
