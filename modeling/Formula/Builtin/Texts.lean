import Formula.Builtin.Argument
import Formula.Builtin.Template
import Formula.Language.Basic
import Formula.Text.Base64
import Formula.Text.Casing
import Formula.Text.Search

set_option autoImplicit false

/-!
# Functions on texts

Positions and lengths count characters.
-/

namespace Formula.Builtin.Texts

/-- A function of one text, given by what it does with the characters. -/
def onChars (name : String) (f : List Char → List Char) (args : List Value) :
    Except EvalError Value := do
  return .ofChars (f (← Argument.chars name args 0))

/-- A question about a text and another one. -/
def asking (name : String) (holds : (part cs : List Char) → Bool) (args : List Value) :
    Except EvalError Value := do
  let cs ← Argument.chars name args 0
  let part ← Argument.chars name args 1
  return .bool (holds part cs)

/-- The text without blanks at its ends. -/
def trim : List Value → Except EvalError Value :=
  onChars "trim" Text.trim

/-- The text without blanks at its start. -/
def trimLeft : List Value → Except EvalError Value :=
  onChars "trimLeft" Text.trimLeft

/-- The text without blanks at its end. -/
def trimRight : List Value → Except EvalError Value :=
  onChars "trimRight" Text.trimRight

/-- The text in lower case. -/
def toLower : List Value → Except EvalError Value :=
  onChars "toLower" Text.toLower

/-- The text in upper case. -/
def toUpper : List Value → Except EvalError Value :=
  onChars "toUpper" Text.toUpper

/-- The text with the first letter of every word in upper case. -/
def title : List Value → Except EvalError Value :=
  onChars "title" Text.title

/-- Whether a text starts with another. -/
def startsWith : List Value → Except EvalError Value :=
  asking "hasPrefix" Text.startsWith

/-- Whether a text ends with another. -/
def endsWith : List Value → Except EvalError Value :=
  asking "hasSuffix" Text.endsWith

/-- Whether a text occurs in another, with or without regard to case. -/
def hasSubstring (args : List Value) : Except EvalError Value := do
  let cs ← Argument.chars "hasSubstring" args 0
  let part ← Argument.chars "hasSubstring" args 1
  let sensitive ← Argument.orElse Argument.bool true "hasSubstring" args 2
  return .bool (if sensitive then Text.occursIn part cs
    else Text.occursIn (Text.toLower part) (Text.toLower cs))

/-- The characters from one position on, up to another if it is given. -/
def substring (args : List Value) : Except EvalError Value := do
  let cs ← Argument.chars "substring" args 0
  let length : Int := cs.length
  let start ← Argument.integer "substring" args 1
  let stop := min (← Argument.orElse Argument.integer length "substring" args 2) length
  if start < 0 ∨ length < start then throw (.indexOutOfBounds start cs.length)
  if stop < start then throw (.function "substring" (.endBeforeStart stop start))
  return .ofChars ((cs.take stop.toNat).drop start.toNat)

/-- The pieces of a text between occurrences of a separator, or its characters if that is empty. A limit
bounds the number of pieces unless it is negative; of no pieces there are none. -/
def splitAt (separator : List Char) (limit : Int) (cs : List Char) : List (List Char) :=
  if limit = 0 then []
  else if separator = [] then cs.map fun c => [c]
  else Text.pieces separator (if limit < 0 then none else some (limit.toNat - 1)) cs

/-- The pieces of a text. -/
def split (args : List Value) : Except EvalError Value := do
  let cs ← Argument.chars "split" args 0
  let separator ← Argument.chars "split" args 1
  let limit ← Argument.orElse Argument.integer (-1) "split" args 2
  return .array ((splitAt separator limit cs).map Value.ofChars)

/-- The items of an array as they are shown, with a separator between neighbours. -/
def join (args : List Value) : Looking Value := do
  let items ← Argument.array "join" args 0
  let separator ← Argument.orElse Argument.string "" "join" args 1
  Looking.lookAtEach items
  return .string (separator.intercalate (items.map Value.display))

/-- The text with the first occurrences of another, or all of them, replaced. -/
def replace (args : List Value) : Except EvalError Value := do
  let cs ← Argument.chars "replace" args 0
  let part ← Argument.chars "replace" args 1
  let fresh ← Argument.chars "replace" args 2
  let n ← Argument.orElse Argument.integer (-1) "replace" args 3
  return .ofChars (Text.replace part fresh (if n < 0 then none else some n.toNat) cs)

/-- The greatest number of bytes that repeating may lead to. -/
def greatestSize : Nat := 16 * 0x100000

/-- A text so many times. -/
def times (n : Nat) (s : String) : String :=
  Nat.repeat (fun out => out ++ s) n ""

/-- A text so many times, if that is not too long. -/
def repeated (args : List Value) : Looking Value := do
  let s ← Argument.string "repeat" args 0
  let n ← Argument.integer "repeat" args 1
  if n < 0 then Looking.refuse (.function "repeat" .negativeCount)
  if greatestSize < s.utf8ByteSize * n.toNat then
    Looking.refuse (.function "repeat" (.tooLong greatestSize))
  Looking.look
  return .string (times n.toNat s)

/-- What a text is measured in when it is shortened. -/
inductive Measure where
  | characters
  | words
deriving DecidableEq

/-- The measure that a name stands for. -/
def Measure.ofName? (name : String) : Option Measure :=
  if name = "char" then some .characters
  else if name = "word" then some .words
  else none

/-- What stands behind a text that was cut. -/
def ellipsis : List Char :=
  [' ', '…']

/-- The first `n` units of a text and an ellipsis, or the text itself if it has no more. -/
def shortened (measure : Measure) (n : Nat) (cs : List Char) : List Char :=
  match measure with
  | .characters => if cs.length ≤ n then cs else cs.take n ++ ellipsis
  | .words =>
    let words := Text.words cs
    if words.length ≤ n then cs else Text.join [' '] (words.take n) ++ ellipsis

/-- A text with at most so many characters or words. -/
def shorten (args : List Value) : Except EvalError Value := do
  let cs ← Argument.chars "shorten" args 0
  let mode ← Argument.string "shorten" args 1
  let count ← Argument.integer "shorten" args 2
  match Measure.ofName? mode with
  | some measure => return .ofChars (shortened measure count.toNat cs)
  | none => throw (.function "shorten" (.unknownMode mode))

/-- Whether a pattern is found in a text. -/
def matching (patterns : Pattern.Engine) (args : List Value) : Except EvalError Value := do
  let s ← Argument.string "match" args 0
  let text ← Argument.string "match" args 1
  match patterns.compile text with
  | some pattern => return .bool (patterns.occursIn pattern s)
  | none => throw (.invalidRegex text)

/-- The bytes of a text in base 64. -/
def base64encode (args : List Value) : Except EvalError Value := do
  return .ofChars (Text.Base64.ofText (← Argument.string "base64encode" args 0))

/-- The text whose bytes are given in base 64. -/
def base64decode (args : List Value) : Except EvalError Value := do
  match Text.Base64.decode? (← Argument.chars "base64decode" args 0) with
  | none => throw (.function "base64decode" .unreadable)
  | some bytes =>
    match Text.Base64.textOfBytes? bytes with
    | some s => return .string s
    | none => throw (.function "base64decode" .notText)

/-- A template filled with the further arguments. -/
def format (args : List Value) : Except EvalError Value := do
  let template ← Argument.chars "format" args 0
  return .ofChars (← (Template.ofChars template).fill "format" (← Argument.rest "format" args 1))

/-- The functions on texts. -/
def library : Library where
  category := "string"
  definitions := [
    .plain "trim" (.fixed 1) trim,
    .plain "trimLeft" (.fixed 1) trimLeft,
    .plain "trimRight" (.fixed 1) trimRight,
    .plain "toLower" (.fixed 1) toLower,
    .plain "toUpper" (.fixed 1) toUpper,
    .plain "title" (.fixed 1) title,
    .plain "hasPrefix" (.fixed 2) startsWith,
    .plain "hasSuffix" (.fixed 2) endsWith,
    .plain "hasSubstring" (.range 2 (some 3)) hasSubstring,
    .plain "substring" (.range 2 (some 3)) substring,
    .plain "split" (.range 2 (some 3)) split,
    .watching "join" (.range 1 (some 2)) join,
    .plain "replace" (.range 3 (some 4)) replace,
    .watching "repeat" (.fixed 2) repeated,
    .plain "shorten" (.fixed 3) shorten,
    .matching "match" (.fixed 2) matching,
    .plain "base64encode" (.fixed 1) base64encode,
    .plain "base64decode" (.fixed 1) base64decode,
    .plain "format" (.range 1 none) format]

end Formula.Builtin.Texts
