import Formula.Pattern.Basic

set_option autoImplicit false

/-!
# The size of patterns

Counted repetitions make a short text stand for a large automaton over bytes. Patterns whose automaton
would take more than ten mebibytes are refused. An automaton takes 32 bytes for each state, 8 for each
range of bytes that a state of several ranges leads away with, and 4 for each way a branching state
leads.

## Main definitions

* `Formula.Pattern.size` — the bytes of the automaton of a pattern.
* `Formula.Pattern.isTooLarge` — whether that is more than is allowed.
-/

namespace Formula

namespace Pattern

/-! ## Characters as bytes -/

/-- The bytes of a code point. -/
def codeBytes (c : Nat) : List Nat :=
  if c < 0x80 then [c]
  else if c < 0x800 then [0xc0 + c / 0x40, 0x80 + c % 0x40]
  else if c < 0x10000 then [0xe0 + c / 0x1000, 0x80 + c / 0x40 % 0x40, 0x80 + c % 0x40]
  else [0xf0 + c / 0x40000, 0x80 + c / 0x1000 % 0x40, 0x80 + c / 0x40 % 0x40, 0x80 + c % 0x40]

/-- The parts of a range of code points between bounds where the count of bytes changes. -/
def byLength (first last : Nat) : List (Nat × Nat) :=
  [(0, 0x7f), (0x80, 0x7ff), (0x800, 0xffff), (0x10000, 0x10ffff)].filterMap fun (a, b) =>
    if max a first ≤ min b last then some (max a first, min b last) else none

/-- The parts of a range of code points, all of one count of bytes, of which the last `places` bytes
take either all values or only the ones between those of the ends. -/
def aligned (places first last : Nat) : List (Nat × Nat) :=
  match places with
  | 0 => [(first, last)]
  | places + 1 =>
    let block := Nat.pow 0x40 (places + 1)
    if first / block = last / block then aligned places first last
    else
      let low := if first % block = 0 then first else (first / block + 1) * block
      let high := if last % block = block - 1 then last + 1 else last / block * block
      (if first < low then aligned places first (low - 1) else []) ++
        (if low < high then [(low, high - 1)] else []) ++
        (if high ≤ last then aligned places high last else [])

/-- The sequences of byte ranges that the characters of a set are encoded by. -/
def byteRanges (set : CodeSet) : List (List (Nat × Nat)) :=
  set.ranges.toList.flatMap fun (first, last) =>
    (byLength first last).flatMap fun (first, last) =>
      let places := (codeBytes first).length - 1
      (aligned places first last).map fun (first, last) =>
        (codeBytes first).zip (codeBytes last)

/-! ## Automata of classes -/

/-- States with the same ranges and continuations are one state. A state is known by its ranges, each
with the number of the state it leads to; the first state is where a character ends. -/
abbrev States := List (List ((Nat × Nat) × Nat))

/-- The number of a state, which is added if it is new. -/
def intern (states : States) (state : List ((Nat × Nat) × Nat)) : States × Nat :=
  match states.findIdx? fun other => other == state with
  | some i => (states, states.length - i)
  | none => (state :: states, states.length + 1)

/-- The number of the state that reads one of the given sequences, which are grouped by their first
ranges. -/
def classState : (fuel : Nat) → States → List (List (Nat × Nat)) → States × Nat
  | 0, states, _ => (states, 0)
  | fuel + 1, states, sequences =>
    let groups := sequences.splitBy fun a b => a.head? == b.head?
    let (states, edges) := groups.foldl
      (fun (acc : States × List ((Nat × Nat) × Nat)) group =>
        match group with
        | (range :: rest) :: _ =>
          if rest = [] then (acc.1, (range, 0) :: acc.2)
          else
            let (states, next) := classState fuel acc.1 (group.map (List.drop 1))
            (states, (range, next) :: acc.2)
        | _ => acc)
      (states, [])
    intern states edges.reverse

/-- The bytes of the states that read one character of a set forwards. -/
def forwardSize (sequences : List (List (Nat × Nat))) : Nat :=
  let states := (classState 4 [] sequences).1
  let size (state : List ((Nat × Nat) × Nat)) : Nat :=
    if state.length ≤ 1 then 32 else 32 + 8 * state.length
  states.foldl (fun total state => total + size state) 32

/-- How many of the ranges of a sequence of byte ranges it does not share with the one before. -/
def freshRanges : (before sequence : List (Nat × Nat)) → Nat
  | a :: before, b :: sequence => if a = b then freshRanges before sequence else sequence.length + 1
  | [], sequence => sequence.length
  | _, [] => 0

/-- The bytes of the states that read one character of a set backwards. A state branches to all
sequences; sequences share their first ranges. -/
def backwardSize (sequences : List (List (Nat × Nat))) : Nat :=
  let fresh := (([] :: sequences).zip sequences).map fun (before, sequence) =>
    freshRanges before sequence
  fresh.foldl (fun total n => total + 32 * n) (64 + 4 * sequences.length)

/-- The bytes of the states that read one character of a set, in the direction that takes more. -/
def classSize (set : CodeSet) : Nat :=
  match set.ranges.toList with
  | [(first, last)] =>
    if first = last then 32 * (codeBytes first).length
    else if last < 0x80 then 72
    else rangesSize
  | ranges => if ranges.all fun range => decide (range.2 < 0x80) then 64 + 8 * ranges.length
    else rangesSize
where
  /-- The bytes for a set with characters of several bytes. -/
  rangesSize : Nat :=
    let sequences := byteRanges set
    max (forwardSize sequences) (backwardSize sequences)

/-! ## Automata of patterns -/

mutual

/-- Whether a pattern matches nothing but the empty text. -/
def isEmptyOnly : Pattern → Bool
  | .empty => true
  | .assertion _ => true
  | .oneOf _ => false
  | .group inner => isEmptyOnly inner
  | .concat parts => areEmptyOnly parts
  | .choice parts => areEmptyOnly parts
  | .repeated inner _ most => isEmptyOnly inner || most == some 0

/-- Whether patterns match nothing but the empty text. -/
def areEmptyOnly : List Pattern → Bool
  | [] => true
  | part :: parts => isEmptyOnly part && areEmptyOnly parts

end

/-- The bytes of a repetition of a pattern with the given size. -/
def repeatedSize (size least : Nat) (most : Option Nat) : Nat :=
  match most with
  | none => if least = 0 then size + 72 else least * size + 40
  | some most =>
    if most = 0 then 32
    else if least = most then least * size
    else least * size + (most - least) * (size + 40) + 32

mutual

/-- The bytes of the automaton of a pattern. -/
def size : Pattern → Nat
  | .empty => 32
  | .oneOf set => classSize set
  | .assertion _ => 32
  | .group inner => size inner + 64
  | .concat parts => sizeAll parts
  | .choice parts => sizeAll parts + 64 + 4 * parts.length
  | .repeated inner least most =>
    if isEmptyOnly inner then
      repeatedSize (size inner) (min least 1) (some (min (most.getD 1) 1))
    else repeatedSize (size inner) least most

/-- The bytes of the automata of patterns. -/
def sizeAll : List Pattern → Nat
  | [] => 0
  | part :: parts => size part + sizeAll parts

end

/-- The greatest size of an automaton in bytes. -/
def greatestSize : Nat := 10 * 0x100000

/-- Whether a pattern has too large an automaton. What finds its start in a text takes six more
states. -/
def isTooLarge (pattern : Pattern) : Bool :=
  decide (greatestSize < pattern.size + 192)

end Pattern

end Formula
