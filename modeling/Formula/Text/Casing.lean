import Formula.Text.Blank
import Formula.Unicode.Case
import Formula.Unicode.Letters

set_option autoImplicit false

/-!
# Case of text

Upper and lower case of whole texts. Every character is mapped on its own, except that a capital
sigma becomes a final sigma at the end of a word.
-/

namespace Formula.Text

/-- Whether the first character that casing does not pass over is a cased one. -/
def casedAhead (cs : List Char) : Bool :=
  match cs.dropWhile Unicode.caseIgnorable.contains with
  | [] => false
  | c :: _ => Unicode.cased.contains c

/-- The small sigma for a capital one with the given text before it, in reverse, and after it. -/
def sigma (before after : List Char) : Char :=
  if casedAhead before && !casedAhead after then 'ς' else 'σ'

/-- The lower case of a text, given what stands before it in reverse. -/
def toLowerAfter (before : List Char) : List Char → List Char
  | [] => []
  | c :: rest =>
    (if c = 'Σ' then [sigma before rest] else Unicode.lowerOf c) ++ toLowerAfter (c :: before) rest

/-- The lower case of a text. -/
def toLower (cs : List Char) : List Char :=
  toLowerAfter [] cs

/-- The upper case of a text. -/
def toUpper (cs : List Char) : List Char :=
  cs.flatMap Unicode.upperOf

/-- Upper case for the letters after a blank or, if `starting`, at the start; the rest as it is. -/
def titleFrom (starting : Bool) : List Char → List Char
  | [] => []
  | c :: rest =>
    (if starting && Unicode.alphabetic.contains c then Unicode.upperOf c else [c])
      ++ titleFrom (isBlank c) rest

/-- Upper case for the first letter of every word. -/
def title (cs : List Char) : List Char :=
  titleFrom true cs

end Formula.Text
