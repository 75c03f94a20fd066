set_option autoImplicit false

/-!
# Blanks

The characters that separate words and surround text: the twenty-five characters with the
white space property.

## Main definitions

* `Formula.Text.isBlank` — the class.
* `Formula.Text.trim`, `Formula.Text.trimLeft`, `Formula.Text.trimRight` — text without blanks at its
  ends.
* `Formula.Text.words` — the stretches between blanks.
-/

namespace Formula.Text

/-- The ranges of blank code points. -/
def blankRanges : List (Nat × Nat) :=
  [(0x09, 0x0d), (0x20, 0x20), (0x85, 0x85), (0xa0, 0xa0), (0x1680, 0x1680), (0x2000, 0x200a),
    (0x2028, 0x2029), (0x202f, 0x202f), (0x205f, 0x205f), (0x3000, 0x3000)]

/-- Whether a character is blank. -/
def isBlank (c : Char) : Bool :=
  blankRanges.any fun (first, last) => decide (first ≤ c.toNat ∧ c.toNat ≤ last)

/-- The text from its first character that is not blank on. -/
def trimLeft (cs : List Char) : List Char :=
  cs.dropWhile isBlank

/-- The text up to its last character that is not blank. -/
def trimRight (cs : List Char) : List Char :=
  (cs.reverse.dropWhile isBlank).reverse

/-- The text without blanks at its ends. -/
def trim (cs : List Char) : List Char :=
  trimRight (trimLeft cs)

/-- The stretches between blanks, given the stretch being read in reverse. -/
def wordsFrom (word : List Char) : List Char → List (List Char)
  | [] => if word = [] then [] else [word.reverse]
  | c :: rest =>
    if isBlank c then
      if word = [] then wordsFrom [] rest else word.reverse :: wordsFrom [] rest
    else wordsFrom (c :: word) rest

/-- The longest stretches without blanks, in order. -/
def words (cs : List Char) : List (List Char) :=
  wordsFrom [] cs

end Formula.Text
