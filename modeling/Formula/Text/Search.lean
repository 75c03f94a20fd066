set_option autoImplicit false

/-!
# Searching in text

Occurrences are taken from the left and do not overlap. Cutting a text at the occurrences of a
separator and replacing occurrences go from one to the next with `Formula.Text.cut?`.
-/

namespace Formula.Text

/-- What follows `start` in a text that starts with it. -/
def dropStart? : (start cs : List Char) → Option (List Char)
  | [], cs => some cs
  | _ :: _, [] => none
  | a :: start, c :: cs => if a = c then dropStart? start cs else none

/-- Whether a text starts with another. -/
def startsWith (start cs : List Char) : Bool :=
  (dropStart? start cs).isSome

/-- Whether a text ends with another. -/
def endsWith (tail cs : List Char) : Bool :=
  startsWith tail.reverse cs.reverse

/-- What stands before and after the first occurrence of `part`. -/
def cut? (part : List Char) : List Char → Option (List Char × List Char)
  | [] => if part = [] then some ([], []) else none
  | c :: cs =>
    match dropStart? part (c :: cs) with
    | some rest => some ([], rest)
    | none => (cut? part cs).map fun (before, after) => (c :: before, after)

/-- Whether `part` occurs in a text. -/
def occursIn (part cs : List Char) : Bool :=
  (cut? part cs).isSome

/-- The pieces of a text between occurrences of a separator. At most `limit` cuts are made if a limit
is given. A cut consumes the separator, so `fuel` need not exceed the length of the text by more than
one when the separator is not empty. -/
def piecesFrom (separator : List Char) : (fuel : Nat) → (limit : Option Nat) → List Char →
    List (List Char)
  | 0, _, cs => [cs]
  | fuel + 1, limit, cs =>
    if limit = some 0 then [cs]
    else match cut? separator cs with
      | none => [cs]
      | some (before, after) =>
        before :: piecesFrom separator fuel (limit.map fun n => n - 1) after

/-- The pieces of a text between occurrences of a separator that is not empty, with at most
`limit` cuts. -/
def pieces (separator : List Char) (limit : Option Nat) (cs : List Char) : List (List Char) :=
  piecesFrom separator (cs.length + 1) limit cs

/-- Pieces with a separator between neighbours. -/
def join (separator : List Char) : List (List Char) → List Char
  | [] => []
  | [piece] => piece
  | piece :: rest => piece ++ separator ++ join separator rest

/-- A text with `fresh` before each of its first `limit` characters and, if the limit allows, at the
end. -/
def interleave (fresh : List Char) : (limit : Option Nat) → List Char → List Char
  | limit, [] => if limit = some 0 then [] else fresh
  | limit, c :: cs =>
    if limit = some 0 then c :: cs
    else fresh ++ c :: interleave fresh (limit.map fun n => n - 1) cs

/-- A text with `fresh` in the places of the occurrences of `part`. At most `limit` are replaced if a
limit is given. An occurrence is consumed with what stands before it, so `fuel` need not exceed the length
of the text by more than one when `part` is not empty. -/
def replaceFrom (part fresh : List Char) : (fuel : Nat) → (limit : Option Nat) → List Char →
    List Char
  | 0, _, cs => cs
  | fuel + 1, limit, cs =>
    if limit = some 0 then cs
    else match cut? part cs with
      | none => cs
      | some (before, after) =>
        before ++ fresh ++ replaceFrom part fresh fuel (limit.map fun n => n - 1) after

/-- The text with its first `limit` occurrences of `part`, or all of them, replaced. The empty text
occurs before every character and at the end. -/
def replace (part fresh : List Char) (limit : Option Nat) (cs : List Char) : List Char :=
  if part = [] then interleave fresh limit cs
  else replaceFrom part fresh (cs.length + 1) limit cs

end Formula.Text
