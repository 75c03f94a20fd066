import Formula.Text.Blank
import Formula.Calendar.Offset

set_option autoImplicit false

/-!
# Layouts of times

A layout is a text in which directives, written with `%`, stand for parts of a time. The same layout
writes times and reads them.

## Main definitions

* `Formula.Calendar.Item` — one step of a layout.
* `Formula.Calendar.Layout.ofChars` — the items of a layout.
-/

namespace Formula.Calendar

/-- How a number that is shorter than its width is filled up. -/
inductive Padding where
  | zeros
  | blanks
  | nothing
deriving DecidableEq

/-- The parts of a time that are numbers. -/
inductive Part where
  | year
  | century
  | yearOfCentury
  | isoYear
  | isoYearOfCentury
  | quarter
  | month
  | day
  | weekFromSunday
  | weekFromMonday
  | isoWeek
  /-- The day of the week, Sunday being `0`. -/
  | daysFromSunday
  /-- The day of the week, Monday being `1`. -/
  | dayOfWeek
  | ordinal
  | hour
  /-- The hour of the half day, from `1` to `12`. -/
  | hourOfHalf
  | minute
  | second
  | nano
  | unixSeconds
deriving DecidableEq

/-- One step of a layout. -/
inductive Item where
  /-- Text that stands for itself. -/
  | literal (cs : List Char)
  /-- Blanks; reading skips any number of them. -/
  | blanks (cs : List Char)
  | number (part : Part) (padding : Padding)
  | monthName (long : Bool)
  | weekdayName (long : Bool)
  /-- Whether it is before or after noon. -/
  | halfOfDay (capitals : Bool)
  /-- A fraction of a second behind a point: of some places, or of as many as are needed. -/
  | fraction (places : Option Nat)
  /-- The digits of a fraction of a second alone. -/
  | bareFraction (places : Nat)
  /-- The name of the time zone. -/
  | zone
  | offset (precision : OffsetPrecision) (colon : Bool)
  /-- An offset in any form, for reading only. -/
  | anyOffset
  /-- The interchange notation. -/
  | interchange
  /-- What no directive is written like. -/
  | unknown

/-- The items of a layout, in order. -/
abbrev Layout := List Item

namespace Layout

/-- A number filled up with zeros. -/
def zeros (part : Part) : Item :=
  .number part .zeros

/-- Text that stands for itself. -/
def text (s : String) : Item :=
  .literal s.toList

/-- Hours, minutes and seconds. -/
def clock : Layout :=
  [zeros .hour, text ":", zeros .minute, text ":", zeros .second]

/-- Month, day and year of the century. -/
def shortDate : Layout :=
  [zeros .month, text "/", zeros .day, text "/", zeros .yearOfCentury]

/-- The items of a directive of one letter. -/
def letter? (c : Char) : Option Layout :=
  match c with
  | 'A' => some [.weekdayName true]
  | 'B' => some [.monthName true]
  | 'C' => some [zeros .century]
  | 'D' => some shortDate
  | 'F' => some [zeros .year, text "-", zeros .month, text "-", zeros .day]
  | 'G' => some [zeros .isoYear]
  | 'H' => some [zeros .hour]
  | 'I' => some [zeros .hourOfHalf]
  | 'M' => some [zeros .minute]
  | 'P' => some [.halfOfDay false]
  | 'R' => some [zeros .hour, text ":", zeros .minute]
  | 'S' => some [zeros .second]
  | 'T' => some clock
  | 'U' => some [zeros .weekFromSunday]
  | 'V' => some [zeros .isoWeek]
  | 'W' => some [zeros .weekFromMonday]
  | 'X' => some clock
  | 'Y' => some [zeros .year]
  | 'Z' => some [.zone]
  | 'a' => some [.weekdayName false]
  | 'b' => some [.monthName false]
  | 'c' =>
    some ([.weekdayName false, .blanks [' '], .monthName false, .blanks [' '],
      .number .day .blanks, .blanks [' ']] ++ clock ++ [.blanks [' '], zeros .year])
  | 'd' => some [zeros .day]
  | 'e' => some [.number .day .blanks]
  | 'f' => some [zeros .nano]
  | 'g' => some [zeros .isoYearOfCentury]
  | 'h' => some [.monthName false]
  | 'j' => some [zeros .ordinal]
  | 'k' => some [.number .hour .blanks]
  | 'l' => some [.number .hourOfHalf .blanks]
  | 'm' => some [zeros .month]
  | 'n' => some [.blanks ['\n']]
  | 'p' => some [.halfOfDay true]
  | 'q' => some [.number .quarter .nothing]
  | 'r' =>
    some [zeros .hourOfHalf, text ":", zeros .minute, text ":", zeros .second, .blanks [' '],
      .halfOfDay true]
  | 's' => some [.number .unixSeconds .nothing]
  | 't' => some [.blanks ['\t']]
  | 'u' => some [.number .dayOfWeek .nothing]
  | 'v' =>
    some [.number .day .blanks, text "-", .monthName false, text "-", zeros .year]
  | 'w' => some [.number .daysFromSunday .nothing]
  | 'x' => some shortDate
  | 'y' => some [zeros .yearOfCentury]
  | 'z' => some [.offset .minutes false]
  | '+' => some [.interchange]
  | '%' => some [text "%"]
  | _ => none

/-- The places of a fraction that can be asked for. -/
def places? (c : Char) : Option Nat :=
  match c with
  | '3' => some 3
  | '6' => some 6
  | '9' => some 9
  | _ => none

/-- The items of a directive behind its `%`, and how many characters it has there. -/
def unpadded? : List Char → Option (Layout × Nat)
  | ':' :: ':' :: ':' :: 'z' :: _ => some ([.offset .hours false], 4)
  | ':' :: ':' :: 'z' :: _ => some ([.offset .seconds true], 3)
  | ':' :: 'z' :: _ => some ([.offset .minutes true], 2)
  | '.' :: 'f' :: _ => some ([.fraction none], 2)
  | '.' :: c :: 'f' :: _ => (places? c).map fun n => ([.fraction (some n)], 3)
  | c :: rest =>
    match places? c, rest with
    | some n, 'f' :: _ => some ([.bareFraction n], 2)
    | _, _ => (letter? c).map fun items => (items, 1)
  | [] => none

/-- A directive with a padding of its own. Only a single number can have one. -/
def padded? (padding : Padding) (cs : List Char) : Option (Layout × Nat) :=
  match unpadded? cs with
  | some ([.number part _], n) => some ([.number part padding], n + 1)
  | _ => none

/-- The items of a directive behind its `%`, and how many characters it has there. -/
def directive? : List Char → Option (Layout × Nat)
  | '-' :: rest => padded? .nothing rest
  | '_' :: rest => padded? .blanks rest
  | '0' :: rest => padded? .zeros rest
  | '#' :: 'z' :: _ => some ([.anyOffset], 2)
  | cs => unpadded? cs

/-- The items of a layout. An unknown directive ends it. -/
def ofChars : List Char → Layout
  | [] => []
  | c :: rest =>
    if c = '%' then
      match directive? rest with
      | none => [.unknown]
      | some (items, n) => items ++ ofChars (rest.drop n)
    else if Text.isBlank c then
      .blanks (c :: rest.takeWhile Text.isBlank) :: ofChars (rest.dropWhile Text.isBlank)
    else
      let plain := fun d => d != '%' && !Text.isBlank d
      .literal (c :: rest.takeWhile plain) :: ofChars (rest.dropWhile plain)
termination_by cs => cs.length
decreasing_by
  · simp only [List.length_drop, List.length_cons]; omega
  · exact Nat.lt_succ_of_le (List.dropWhile_sublist _).length_le
  · exact Nat.lt_succ_of_le (List.dropWhile_sublist _).length_le

end Layout

end Formula.Calendar
