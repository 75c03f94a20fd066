set_option autoImplicit false

/-!
# Sets of code points

A set is a list of closed ranges, ascending and disjoint. Sets are built from arbitrary ranges by
`Formula.CodeSet.ofRanges`, combined by the set operations, and read from the run-length texts in
which the larger tables are kept.
-/

namespace Formula

/-- A set of code points as ascending disjoint closed ranges. -/
structure CodeSet where
  ranges : Array (Nat × Nat)

namespace CodeSet

/-- The set without members. -/
def empty : CodeSet :=
  ⟨#[]⟩

/-- Searches the ranges with indices from `low` up to `high` for one that holds `c`. Each step halves
the stretch, so `steps` need not exceed its binary logarithm by more than one. -/
def search (ranges : Array (Nat × Nat)) (c : Nat) : (steps low high : Nat) → Bool
  | 0, _, _ => false
  | steps + 1, low, high =>
    if low < high then
      let middle := (low + high) / 2
      match ranges[middle]? with
      | none => false
      | some (first, last) =>
        if c < first then search ranges c steps low middle
        else if last < c then search ranges c steps (middle + 1) high
        else true
    else false

/-- Membership of a code point. -/
def has (s : CodeSet) (c : Nat) : Bool :=
  search s.ranges c (s.ranges.size.log2 + 2) 0 s.ranges.size

/-- Membership of a character. -/
def contains (s : CodeSet) (c : Char) : Bool :=
  s.has c.toNat

/-- Joins the range from `first` to `last` with the ranges of a list that ascends by first members,
wherever they overlap or touch. -/
def joinRanges (first last : Nat) : List (Nat × Nat) → List (Nat × Nat)
  | [] => [(first, last)]
  | (a, b) :: rest =>
    if a ≤ last + 1 then joinRanges first (max last b) rest
    else (first, last) :: joinRanges a b rest

/-- The set of all members of the given ranges. -/
def ofRanges (ranges : List (Nat × Nat)) : CodeSet :=
  match ranges.mergeSort fun a b => a.1 ≤ b.1 with
  | [] => empty
  | (a, b) :: rest => ⟨(joinRanges a b rest).toArray⟩

/-- The set of the given code points. -/
def ofList (codes : List Nat) : CodeSet :=
  ofRanges (codes.map fun c => (c, c))

/-- All members of either set. -/
def union (s t : CodeSet) : CodeSet :=
  ofRanges (s.ranges.toList ++ t.ranges.toList)

/-- The gaps between ascending disjoint ranges, from `low` on. -/
def gaps (low : Nat) : List (Nat × Nat) → List (Nat × Nat)
  | [] => if low ≤ 0x10ffff then [(low, 0x10ffff)] else []
  | (a, b) :: rest =>
    if low < a then (low, a - 1) :: gaps (b + 1) rest else gaps (b + 1) rest

/-- The surrogates, which are code points but not characters. -/
def surrogates : CodeSet :=
  ⟨#[(0xd800, 0xdfff)]⟩

/-- All characters that are not members. -/
def compl (s : CodeSet) : CodeSet :=
  ⟨(gaps 0 (s.union surrogates).ranges.toList).toArray⟩

/-- The common members. -/
def inter (s t : CodeSet) : CodeSet :=
  (s.compl.union t.compl).compl

/-- The members of the first set that are not members of the second. -/
def diff (s t : CodeSet) : CodeSet :=
  s.inter t.compl

/-- The members of exactly one of the two sets. -/
def symmDiff (s t : CodeSet) : CodeSet :=
  (s.diff t).union (t.diff s)

/-! ## Run-length texts -/

/-- Numbers separated by blanks. -/
def numbers (text : List Char) : List Nat :=
  let (done, digits) := text.foldl
    (fun (acc : List Nat × Option Nat) c =>
      match c.isDigit, acc with
      | true, (done, digits) => (done, some (digits.getD 0 * 10 + (c.toNat - '0'.toNat)))
      | false, (done, some n) => (n :: done, none)
      | false, (done, none) => (done, none))
    ([], none)
  (match digits with
    | some n => n :: done
    | none => done).reverse

/-- Ranges from alternating lengths: so many code points outside, so many inside, and so on. -/
def alternate (start : Nat) : List Nat → List (Nat × Nat)
  | skip :: keep :: rest =>
    (start + skip, start + skip + keep - 1) :: alternate (start + skip + keep) rest
  | _ => []

/-- The set written as alternating lengths of gaps and ranges, from code point zero on. -/
def ofRuns (text : String) : CodeSet :=
  ⟨(alternate 0 (numbers text.toList)).toArray⟩

end CodeSet

end Formula
