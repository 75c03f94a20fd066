import Formula.Pattern.Reading
import Formula.Pattern.Size
import Formula.Unicode.Folding
import Formula.Unicode.Property
import Formula.Unicode.Script

set_option autoImplicit false

/-!
# What patterns mean

Flags and names of classes are resolved: every letter becomes a set of characters and every anchor a
condition on a position. With the Unicode flag off, classes are sets of bytes, and a pattern that
could match part of a character is refused.

## Main definitions

* `Formula.Pattern.Term.meaning?` — the pattern that a written pattern stands for.
* `Formula.Pattern.ofText?` — the pattern that a text stands for.
* `Formula.Pattern.Engine.standard` — the library that these patterns are.
-/

namespace Formula.Pattern

/-- The flags that are on. -/
structure Flags where
  ignoreCase : Bool := false
  multiLine : Bool := false
  dotAll : Bool := false
  unicode : Bool := true
  crlf : Bool := false

/-- A flag switched on or off. -/
def Flags.set (flags : Flags) (change : Flag × Bool) : Flags :=
  match change with
  | (.ignoreCase, on) => { flags with ignoreCase := on }
  | (.multiLine, on) => { flags with multiLine := on }
  | (.dotAll, on) => { flags with dotAll := on }
  | (.unicode, on) => { flags with unicode := on }
  | (.crlf, on) => { flags with crlf := on }
  | (.swapGreed, _) => flags
  | (.verbose, _) => flags

/-- Several flags switched on or off. -/
def Flags.change (flags : Flags) (changes : FlagChanges) : Flags :=
  changes.foldl Flags.set flags

/-! ## Named classes -/

/-- A name without what may be left out of it: blanks, hyphens and underlines, a leading `is`, and
the case of its letters. `isc` is a name of its own. -/
def reduceName (name : String) : String :=
  let cs := name.toList
  let startsWithIs := (cs.take 2).map Char.toLower == ['i', 's']
  let cs := if startsWithIs then cs.drop 2 else cs
  let reduced := (cs.filter fun c =>
    c != ' ' && c != '_' && c != '-' && decide (c.toNat < 128)).map Char.toLower
  if startsWithIs ∧ reduced = ['c'] then "isc" else String.ofList reduced

/-- The characters of a class with a reduced name: a property, a category or a script. Three names are
those of categories first. -/
def classNamed? (name : String) : Option CodeSet :=
  let category := Unicode.categoryClass? name
  if name = "cf" ∨ name = "sc" ∨ name = "lc" then category
  else match Unicode.property? name with
    | some set => some set
    | none =>
      match category with
      | some set => some set
      | none => Unicode.script? name

/-- The characters whose property has a value. Categories, scripts and their extensions are known, and
no other properties that have several values (ages and the kinds of breaks in texts). -/
def ClassName.set? (c : ClassName) : Option CodeSet :=
  let name := reduceName c.name
  match c.property.map reduceName with
  | none => classNamed? name
  | some property =>
    if property = "generalcategory" ∨ property = "gc" then Unicode.categoryClass? name
    else if property = "script" ∨ property = "sc" then Unicode.script? name
    else if property = "scriptextensions" ∨ property = "scx" then Unicode.scriptExtensions? name
    else none

/-! ## Classes -/

/-- The characters of ASCII. -/
def asciiSet : CodeSet :=
  ⟨#[(0, 0x7f)]⟩

/-- All bytes. -/
def byteSet : CodeSet :=
  ⟨#[(0, 0xff)]⟩

/-- The letters of ASCII with the other case beside them. -/
def foldAscii (s : CodeSet) : CodeSet :=
  let capitals : CodeSet := ⟨#[(65, 90)]⟩
  let smalls : CodeSet := ⟨#[(97, 122)]⟩
  let moved (t : CodeSet) (move : Nat → Nat) : List (Nat × Nat) :=
    (s.inter t).ranges.toList.map fun (first, last) => (move first, move last)
  s.union (CodeSet.ofRanges (moved capitals (fun c => c + 32) ++ moved smalls (fun c => c - 32)))

namespace Flags

/-- A class with both cases, if case is ignored. -/
def fold (flags : Flags) (s : CodeSet) : CodeSet :=
  if !flags.ignoreCase then s
  else if flags.unicode then Unicode.foldCase s
  else foldAscii s

/-- The characters, or bytes, outside a class. -/
def negate (flags : Flags) (negated : Bool) (s : CodeSet) : CodeSet :=
  if !negated then s
  else if flags.unicode then s.compl
  else s.compl.inter byteSet

/-- The code point of a letter. With the Unicode flag off it is a byte. -/
def code? (flags : Flags) (l : Letter) : Option Nat :=
  if flags.unicode ∨ l.char.toNat < 128 ∨ (l.asByte ∧ l.char.toNat < 256) then some l.char.toNat
  else none

/-- A class written with one letter. -/
def short (flags : Flags) (c : ShortClass) : CodeSet :=
  match c, flags.unicode with
  | .digit, true => Unicode.category "Nd"
  | .space, true => CodeSet.ofRanges Text.blankRanges
  | .word, true => Unicode.wordCharacters
  | .digit, false => ⟨#[(48, 57)]⟩
  | .space, false => ⟨#[(9, 13), (32, 32)]⟩
  | .word, false => ⟨#[(48, 57), (65, 90), (95, 95), (97, 122)]⟩

/-- A class written with one letter, or its complement. Of bytes the complement is refused. -/
def short? (flags : Flags) (c : ShortClass) (negated : Bool) : Option CodeSet :=
  if negated ∧ !flags.unicode then none else some (flags.negate negated (flags.short c))

/-- A named class, or its complement. -/
def named? (flags : Flags) (c : ClassName) (negated : Bool) : Option CodeSet :=
  if flags.unicode then c.set?.map fun s => flags.negate negated (flags.fold s) else none

/-- A class that is refused if it has bytes that are no characters. -/
def checked? (flags : Flags) (s : CodeSet) : Option CodeSet :=
  if flags.unicode ∨ (s.diff asciiSet).ranges.isEmpty then some s else none

end Flags

mutual

/-- The characters of what stands in a bracketed class. -/
def ClassTerm.set? (flags : Flags) : ClassTerm → Option CodeSet
  | .letter l => (flags.code? l).map fun c => ⟨#[(c, c)]⟩
  | .range first last => do
    some ⟨#[(← flags.code? first, ← flags.code? last)]⟩
  | .ascii ranges negated =>
    some (flags.negate negated (flags.fold (CodeSet.ofRanges ranges)))
  | .short c negated => flags.short? c negated
  | .named c negated => flags.named? c negated
  | .bracketed negated inner => do
    some (flags.negate negated (flags.fold (← inner.set? flags)))
  | .union items => unionSet? flags items
  | .combined operation left right => do
    let left := flags.fold (← left.set? flags)
    let right := flags.fold (← right.set? flags)
    some (match operation with
      | .inter => left.inter right
      | .diff => left.diff right
      | .symmDiff => left.symmDiff right)

/-- The characters of any of the items. -/
def ClassTerm.unionSet? (flags : Flags) : List ClassTerm → Option CodeSet
  | [] => some CodeSet.empty
  | item :: items => do
    some ((← item.set? flags).union (← unionSet? flags items))

end

/-! ## Patterns -/

/-- A letter of a pattern. -/
def Flags.letter? (flags : Flags) (l : Letter) : Option CodeSet :=
  if !flags.unicode ∧ l.asByte ∧ 128 ≤ l.char.toNat then none
  else some (flags.fold ⟨#[(l.char.toNat, l.char.toNat)]⟩)

/-- All characters but the ends of lines, or all. -/
def Flags.dot? (flags : Flags) : Option CodeSet :=
  if !flags.unicode then none
  else
    let ends : CodeSet :=
      if flags.dotAll then CodeSet.empty
      else if flags.crlf then ⟨#[(10, 10), (13, 13)]⟩
      else ⟨#[(10, 10)]⟩
    some ends.compl

/-- The condition of an anchor. -/
def Flags.assertion (flags : Flags) (a : Anchor) : Assertion :=
  let word := Assertion.word (flags.short .word)
  match a with
  | .caret =>
    if flags.multiLine then (if flags.crlf then .crlfLineStart else .lineStart) else .textStart
  | .dollar =>
    if flags.multiLine then (if flags.crlf then .crlfLineEnd else .lineEnd) else .textEnd
  | .textStart => .textStart
  | .textEnd => .textEnd
  | .wordEdge => word fun before after => before != after
  | .noWordEdge => word fun before after => before == after
  | .wordStart => word fun before after => !before && after
  | .wordEnd => word fun before after => before && !after
  | .wordStartHalf => word fun before _ => !before
  | .wordEndHalf => word fun _ after => !after

mutual

/-- The pattern that a written one stands for, and the flags for what follows. -/
def Term.meaning? (flags : Flags) : Term → Option (Pattern × Flags)
  | .empty => some (.empty, flags)
  | .letter l => do some (.oneOf (← flags.letter? l), flags)
  | .dot => do some (.oneOf (← flags.dot?), flags)
  | .anchor a => some (.assertion (flags.assertion a), flags)
  | .short c negated => do some (.oneOf (← flags.short? c negated), flags)
  | .named c negated => do some (.oneOf (← flags.named? c negated), flags)
  | .bracketed negated inner => do
    let set := flags.negate negated (flags.fold (← inner.set? flags))
    some (.oneOf (← flags.checked? set), flags)
  | .flags changes => some (.empty, flags.change changes)
  | .repeated inner least most => do
    let (p, flags) ← inner.meaning? flags
    some (.repeated p least most, flags)
  | .group capturing changes inner => do
    let (p, _) ← inner.meaning? (flags.change changes)
    some (if capturing then .group p else p, flags)
  | .concat parts => do
    let (ps, flags) ← meanings? flags parts
    some (.concat ps, flags)
  | .choice parts => do
    let (ps, flags) ← meanings? flags parts
    some (.choice ps, flags)

/-- The patterns of parts, each with the flags that the one before leaves. -/
def Term.meanings? (flags : Flags) : List Term → Option (List Pattern × Flags)
  | [] => some ([], flags)
  | part :: parts => do
    let (p, flags) ← part.meaning? flags
    let (ps, flags) ← meanings? flags parts
    some (p :: ps, flags)

end

/-- How deep patterns may be nested. -/
def greatestDepth : Nat := 250

/-- The pattern that a text stands for, if it is one, is not nested too deep and is not too large. -/
def ofText? (text : String) : Option Pattern :=
  match Term.ofChars? text.toList with
  | none => none
  | some t =>
    if t.fits greatestDepth then
      match t.meaning? {} with
      | some (p, _) => if p.isTooLarge then none else some p
      | none => none
    else none

/-- These patterns as a library of regular expressions. -/
def Engine.standard : Engine where
  compile := ofText?
  occursIn := Pattern.occursIn

end Formula.Pattern
