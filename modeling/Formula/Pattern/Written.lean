set_option autoImplicit false

/-!
# Patterns as they are written

The tree of a regular expression before flags and names of classes are resolved.

## Main definitions

* `Formula.Pattern.ClassTerm` — what stands in a bracketed class.
* `Formula.Pattern.Term` — a pattern.
* `Formula.Pattern.Term.fits` — whether a pattern is nested no deeper than a bound.
-/

namespace Formula.Pattern

/-- Conditions on a position. -/
inductive Anchor where
  /-- `^`, which flags turn into a start of a text or of a line. -/
  | caret
  /-- `$`, which flags turn into an end of a text or of a line. -/
  | dollar
  | textStart
  | textEnd
  /-- Exactly one of the neighbours is a word character. -/
  | wordEdge
  | noWordEdge
  /-- Only the next character is a word character. -/
  | wordStart
  /-- Only the character before is a word character. -/
  | wordEnd
  /-- The character before is no word character. -/
  | wordStartHalf
  /-- The next character is no word character. -/
  | wordEndHalf
deriving DecidableEq

/-- The classes written with one letter. -/
inductive ShortClass where
  | digit
  | space
  | word
deriving DecidableEq

/-- The flags that change what a pattern means. -/
inductive Flag where
  | ignoreCase
  | multiLine
  | dotAll
  | swapGreed
  | unicode
  | crlf
  /-- Blanks and comments in the pattern are passed over. -/
  | verbose
deriving DecidableEq

/-- Flags that are switched on or off. -/
abbrev FlagChanges := List (Flag × Bool)

/-- A named class of Unicode. -/
structure ClassName where
  /-- The name of the property, if the class is written as a property with a value. -/
  property : Option String
  /-- The value, or the name alone. -/
  name : String

/-- A character of a pattern, and whether it is written as two hexadecimal digits. -/
structure Letter where
  char : Char
  asByte : Bool

/-- How two classes are combined. -/
inductive ClassOperation where
  | inter
  | diff
  | symmDiff
deriving DecidableEq

/-- What stands in a bracketed class. -/
inductive ClassTerm where
  | letter (l : Letter)
  | range (first last : Letter)
  /-- A class such as `[:alpha:]`. -/
  | ascii (ranges : List (Nat × Nat)) (negated : Bool)
  | short (c : ShortClass) (negated : Bool)
  | named (c : ClassName) (negated : Bool)
  /-- A class in brackets. -/
  | bracketed (negated : Bool) (inner : ClassTerm)
  | union (items : List ClassTerm)
  | combined (operation : ClassOperation) (left right : ClassTerm)

/-- A pattern as it is written. -/
inductive Term where
  | empty
  | letter (l : Letter)
  | dot
  | anchor (a : Anchor)
  | short (c : ShortClass) (negated : Bool)
  | named (c : ClassName) (negated : Bool)
  | bracketed (negated : Bool) (inner : ClassTerm)
  /-- Flags for what follows in the group. -/
  | flags (changes : FlagChanges)
  | repeated (inner : Term) (least : Nat) (most : Option Nat)
  /-- A group: capturing, or with flags for itself. -/
  | group (capturing : Bool) (changes : FlagChanges) (inner : Term)
  | concat (parts : List Term)
  | choice (parts : List Term)

/-- Several items as one: a single item is itself. -/
def ClassTerm.ofItems (items : List ClassTerm) : ClassTerm :=
  match items with
  | [item] => item
  | items => .union items

/-- Several parts in sequence as one: a single part is itself. -/
def Term.ofParts (parts : List Term) : Term :=
  match parts with
  | [] => .empty
  | [part] => part
  | parts => .concat parts

/-- Several choices as one: a single one is itself. -/
def Term.ofChoices (parts : List Term) : Term :=
  match parts with
  | [part] => part
  | parts => .choice parts

mutual

/-- Whether a class is nested at most `levels` deep. Brackets, unions and operations are levels; an
empty union is none. -/
def ClassTerm.fits (levels : Nat) : ClassTerm → Bool
  | .bracketed _ inner => decide (0 < levels) && inner.fits (levels - 1)
  | .union [] => true
  | .union (item :: items) =>
    decide (0 < levels) && item.fits (levels - 1) && allFit (levels - 1) items
  | .combined _ left right =>
    decide (0 < levels) && left.fits (levels - 1) && right.fits (levels - 1)
  | .letter _ | .range _ _ | .ascii _ _ | .short _ _ | .named _ _ => true

/-- Whether all classes are nested at most `levels` deep. -/
def ClassTerm.allFit (levels : Nat) : List ClassTerm → Bool
  | [] => true
  | item :: items => item.fits levels && allFit levels items

end

mutual

/-- Whether a pattern is nested at most `levels` deep. Groups, repetitions, sequences, choices and
bracketed classes are levels. -/
def Term.fits (levels : Nat) : Term → Bool
  | .bracketed _ inner => decide (0 < levels) && inner.fits (levels - 1)
  | .repeated inner _ _ => decide (0 < levels) && inner.fits (levels - 1)
  | .group _ _ inner => decide (0 < levels) && inner.fits (levels - 1)
  | .concat parts => decide (0 < levels) && allFit (levels - 1) parts
  | .choice parts => decide (0 < levels) && allFit (levels - 1) parts
  | .empty | .letter _ | .dot | .anchor _ | .short _ _ | .named _ _ | .flags _ => true

/-- Whether all patterns are nested at most `levels` deep. -/
def Term.allFit (levels : Nat) : List Term → Bool
  | [] => true
  | part :: parts => part.fits levels && allFit levels parts

end

end Formula.Pattern
