import Formula.Unicode.CodeSet

set_option autoImplicit false

/-!
# Patterns

A regular expression after flags and names have been resolved. It is matched against a text by
carrying along the set of all positions that a part of the pattern may have reached: the pattern
occurs in the text if something can be reached from somewhere.

## Main definitions

* `Formula.Pattern` — a pattern.
* `Formula.Pattern.reach` — the positions where an occurrence may end that starts in a given set.
* `Formula.Pattern.occursIn` — whether the pattern occurs in a text.
* `Formula.Pattern.Engine` — all that the language uses of a library of regular expressions.
-/

namespace Formula

/-- Conditions on a position in a text. -/
inductive Assertion where
  | textStart
  | textEnd
  | lineStart
  | lineEnd
  /-- The start of a line that ends with a carriage return, a line feed or both. -/
  | crlfLineStart
  | crlfLineEnd
  /-- A condition on whether the characters before and after are word characters. -/
  | word (characters : CodeSet) (holds : Bool → Bool → Bool)

/-- Whether a condition holds at a position. -/
def Assertion.holdsAt (a : Assertion) (text : Array Char) (p : Nat) : Bool :=
  let before : Option Char := if p = 0 then none else text[p - 1]?
  let after : Option Char := text[p]?
  match a with
  | .textStart => before.isNone
  | .textEnd => after.isNone
  | .lineStart => before.all fun c => c == '\n'
  | .lineEnd => after.all fun c => c == '\n'
  | .crlfLineStart => before.all fun c => c == '\n' || (c == '\r' && after != some '\n')
  | .crlfLineEnd => after.all fun c => c == '\r' || (c == '\n' && before != some '\r')
  | .word characters holds => holds (before.any characters.contains) (after.any characters.contains)

/-- A regular expression. -/
inductive Pattern where
  | empty
  | oneOf (set : CodeSet)
  | assertion (a : Assertion)
  /-- A group whose place is remembered; it matches what its inner pattern matches. -/
  | group (inner : Pattern)
  | concat (parts : List Pattern)
  | choice (parts : List Pattern)
  | repeated (inner : Pattern) (least : Nat) (most : Option Nat)

namespace Pattern

/-! ## Sets of positions -/

/-- Positions in increasing order. -/
abbrev Positions := List Nat

/-- The positions of both sets. -/
def merge : Positions → Positions → Positions
  | [], qs => qs
  | p :: ps, [] => p :: ps
  | p :: ps, q :: qs =>
    if p < q then p :: merge ps (q :: qs)
    else if q < p then q :: merge (p :: ps) qs
    else p :: merge ps qs

/-- The positions of the first set that are not in the second. -/
def without : Positions → Positions → Positions
  | [], _ => []
  | p :: ps, [] => p :: ps
  | p :: ps, q :: qs =>
    if p < q then p :: without ps (q :: qs)
    else if q < p then without (p :: ps) qs
    else without ps qs

/-- A step taken `n` times; once it changes nothing, it never will. -/
def iterate (step : Positions → Positions) : Nat → Positions → Positions
  | 0, ps => ps
  | n + 1, ps =>
    let next := step ps
    if next = ps then ps else iterate step n next

/-- The positions reached by at most `n` steps. `seen` are those reached so far and `fresh` those
among them from which no step has been taken. -/
def spread (step : Positions → Positions) : Nat → (seen fresh : Positions) → Positions
  | 0, seen, _ => seen
  | n + 1, seen, fresh =>
    if fresh = [] then seen
    else
      let next := without (step fresh) seen
      spread step n (merge seen next) next

/-! ## Matching -/

mutual

/-- The positions where an occurrence may end that starts at one of the given positions. -/
def reach (text : Array Char) (pattern : Pattern) (ps : Positions) : Positions :=
  match pattern with
  | .empty => ps
  | .oneOf set => (ps.filter fun p => (text[p]?).any set.contains).map fun p => p + 1
  | .assertion a => ps.filter (a.holdsAt text)
  | .group inner => reach text inner ps
  | .concat parts => reachAll text parts ps
  | .choice parts => reachAny text parts ps
  | .repeated inner least most =>
    let start := iterate (fun ps => reach text inner ps) least ps
    let more := match most with
      | none => text.size + 1
      | some most => most - least
    spread (fun ps => reach text inner ps) more start start

/-- The positions reached by one part after the other. -/
def reachAll (text : Array Char) (parts : List Pattern) (ps : Positions) : Positions :=
  match parts with
  | [] => ps
  | part :: parts => reachAll text parts (reach text part ps)

/-- The positions reached by any of the parts. -/
def reachAny (text : Array Char) (parts : List Pattern) (ps : Positions) : Positions :=
  match parts with
  | [] => []
  | part :: parts => merge (reach text part ps) (reachAny text parts ps)

end

/-- Whether the pattern occurs somewhere in a text. -/
def occursIn (pattern : Pattern) (text : String) : Bool :=
  let chars := text.toList.toArray
  !(pattern.reach chars (List.range (chars.size + 1))).isEmpty

/-- A library of regular expressions. The language reads and evaluates matches with any of them, and
uses nothing else of it. -/
structure Engine where
  /-- The pattern that a text stands for, if the text is a regular expression. -/
  compile : String → Option Pattern
  /-- Whether a pattern occurs somewhere in a text. -/
  occursIn : Pattern → String → Bool

end Pattern

end Formula
