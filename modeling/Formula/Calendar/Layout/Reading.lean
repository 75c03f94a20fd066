import Formula.Calendar.Fields
import Formula.Calendar.Layout.Writing

set_option autoImplicit false

/-!
# Reading times by a layout

Every step takes something from the text and adds what it learns to the fields that are already
known. At the end the text has to be used up.

## Main definitions

* `Formula.Calendar.Item.read?` — one step.
* `Formula.Calendar.Layout.read?` — the fields that a text gives.
* `Formula.Calendar.Layout.timestamp?` — the timestamp that they determine.
-/

namespace Formula.Calendar

/-- Fields that are known, and the text that is left. -/
structure Reading where
  fields : Fields
  rest : List Char

namespace Part

/-- The greatest count of digits without a sign. -/
def width : Part → Option Nat
  | .year | .isoYear => some 4
  | .quarter | .daysFromSunday | .dayOfWeek => some 1
  | .ordinal => some 3
  | .nano => some 9
  | .unixSeconds => none
  | _ => some 2

/-- Whether a sign may stand in front, and any count of digits behind it. -/
def hasSign (part : Part) : Bool :=
  part == .year || part == .isoYear

/-- A year that fits in 32 bits. -/
def yearWithin (y : Int) : Option Int :=
  if -0x80000000 ≤ y ∧ y < 0x80000000 then some y else none

/-- The fields with a part of the given value. -/
def set? (part : Part) (i : Int) (f : Fields) : Option Fields := do
  let n := i.toNat
  match part with
  | .year => some { f with year := ← agree f.year (← yearWithin i) }
  | .century => some { f with century := ← agree f.century i }
  | .yearOfCentury => some { f with yearOfCentury := ← agree f.yearOfCentury i }
  | .isoYear => some { f with isoYear := ← agree f.isoYear (← yearWithin i) }
  | .isoYearOfCentury => some { f with isoYearOfCentury := ← agree f.isoYearOfCentury i }
  | .quarter => some { f with quarter := ← agree f.quarter (← within 1 4 n) }
  | .month => some { f with month := ← agree f.month (← within 1 12 n) }
  | .day => some { f with day := ← agree f.day (← within 1 31 n) }
  | .weekFromSunday =>
    some { f with weekFromSunday := ← agree f.weekFromSunday (← within 0 53 n) }
  | .weekFromMonday =>
    some { f with weekFromMonday := ← agree f.weekFromMonday (← within 0 53 n) }
  | .isoWeek => some { f with isoWeek := ← agree f.isoWeek (← within 1 53 n) }
  | .daysFromSunday => some { f with weekday := ← agree f.weekday (((← within 0 6 n) + 6) % 7) }
  | .dayOfWeek => some { f with weekday := ← agree f.weekday ((← within 1 7 n) - 1) }
  | .ordinal => some { f with ordinal := ← agree f.ordinal (← within 1 366 n) }
  | .hour => f.setHour n
  | .hourOfHalf => some { f with hourOfHalf := ← agree f.hourOfHalf ((← within 1 12 n) % 12) }
  | .minute => some { f with minute := ← agree f.minute (← within 0 59 n) }
  | .second => some { f with second := ← agree f.second (← within 0 60 n) }
  | .nano => some { f with nano := ← agree f.nano n }
  | .unixSeconds => some { f with unixSeconds := ← agree f.unixSeconds i }

/-- The number that a part is written as, after any blanks. -/
def number? (part : Part) (cs : List Char) : Option (Int × List Char) :=
  let cs := Text.trimLeft cs
  let plain (cs : List Char) : Option (Int × List Char) :=
    (Calendar.number? 1 (part.width.getD cs.length) cs).map fun (n, rest) => ((n : Int), rest)
  if part.hasSign then
    match cs with
    | '-' :: rest => (anyNumber? rest).map fun (n, rest) => (-(n : Int), rest)
    | '+' :: rest => (anyNumber? rest).map fun (n, rest) => ((n : Int), rest)
    | cs => plain cs
  else plain cs

/-- Reads a part. -/
def read? (part : Part) (r : Reading) : Option Reading := do
  let (i, rest) ← part.number? r.rest
  let fields ← part.set? i r.fields
  some ⟨fields, rest⟩

end Part

namespace Reading

/-- Skips blanks. -/
def skip (r : Reading) : Reading :=
  { r with rest := Text.trimLeft r.rest }

/-- Skips a given text. -/
def literal? (cs : List Char) (r : Reading) : Option Reading :=
  if cs.isPrefixOf r.rest then some { r with rest := r.rest.drop cs.length } else none

/-- The text after a name in any mixture of cases. -/
def afterName? (name cs : List Char) : Option (List Char) :=
  if (cs.take name.length).map Char.toLower = name.map Char.toLower then
    some (cs.drop name.length)
  else none

/-- The number of the name that the text starts with: its first three letters or, if allowed, all of
them. -/
def name? (names : List String) (long : Bool) (cs : List Char) : Option (Nat × List Char) :=
  names.zipIdx.findSome? fun (name, i) =>
    (afterName? (name.toList.take 3) cs).map fun rest =>
      (i, if long then (afterName? (name.toList.drop 3) rest).getD rest else rest)

/-- Adds nanoseconds. -/
def nano? (r : Reading) (found : Option (Nat × List Char)) : Option Reading := do
  let (n, rest) ← found
  some ⟨{ r.fields with nano := ← agree r.fields.nano n }, rest⟩

/-- Reads an offset after any blanks. -/
def offset? (form : OffsetForm) (r : Reading) : Option Reading := do
  let (n, rest) ← Calendar.offset? form (Text.trimLeft r.rest)
  some ⟨{ r.fields with offset := ← agree r.fields.offset n }, rest⟩

/-- Reads the fraction of a second, if there is a point. -/
def fraction? (places : Option Nat) (r : Reading) : Option Reading :=
  match r.rest with
  | '.' :: rest =>
    r.nano? (match places with
      | none => nanos? rest
      | some places => nanosFixed? places rest)
  | _ => some r

/-- Reads whether it is before or after noon. -/
def halfOfDay? (r : Reading) : Option Reading := do
  let (afternoon, rest) ← match afterName? ['A', 'M'] r.rest with
    | some rest => some (false, rest)
    | none => (afterName? ['P', 'M'] r.rest).map fun rest => (true, rest)
  some ⟨{ r.fields with afternoon := ← agree r.fields.afternoon afternoon }, rest⟩

/-- Reads the interchange notation. Blanks may stand between its parts, a year may have a sign, and
`UTC` is an offset. -/
def interchange? (r : Reading) : Option Reading := do
  let r ← Part.year.read? r
  let r ← literal? ['-'] r.skip
  let r ← Part.month.read? r
  let r ← literal? ['-'] r.skip
  let r ← Part.day.read? r
  let r ← (Timestamp.dateEnd? r.rest).map fun rest => { r with rest }
  let r ← Part.hour.read? r
  let r ← literal? [':'] r.skip
  let r ← Part.minute.read? r
  let r ← literal? [':'] r.skip
  let r ← Part.second.read? r
  let r := (← r.fraction? none).skip
  match afterName? "UTC".toList r.rest with
  | some rest => some ⟨{ r.fields with offset := ← agree r.fields.offset 0 }, rest⟩
  | none => r.offset? (.relaxed true false)

end Reading

/-- Reads one step of a layout. -/
def Item.read? (item : Item) (r : Reading) : Option Reading :=
  match item with
  | .literal cs => r.literal? cs
  | .blanks _ => some r.skip
  | .number part _ => part.read? r
  | .monthName long => do
    let (i, rest) ← Reading.name? monthNames long r.rest
    some ⟨{ r.fields with month := ← agree r.fields.month (i + 1) }, rest⟩
  | .weekdayName long => do
    let (i, rest) ← Reading.name? weekdayNames long r.rest
    some ⟨{ r.fields with weekday := ← agree r.fields.weekday i }, rest⟩
  | .halfOfDay _ => r.halfOfDay?
  | .fraction places => r.fraction? places
  | .bareFraction places => r.nano? (nanosFixed? places r.rest)
  | .zone => some { r with rest := r.rest.dropWhile fun c => !Text.isBlank c }
  | .offset _ _ => r.offset? (.relaxed false false)
  | .anyOffset => r.offset? (.relaxed true true)
  | .interchange => r.interchange?
  | .unknown => none

namespace Layout

/-- The fields that a whole text gives. -/
def read? (layout : Layout) (cs : List Char) : Option Fields := do
  let r ← layout.foldlM (fun r item => item.read? r) ⟨{}, cs⟩
  if r.rest = [] then some r.fields else none

/-- The timestamp of a text. Without an offset it is read as universal time, without a time of day as
midnight. -/
def timestamp? (layout : Layout) (cs : List Char) : Option Timestamp := do
  let fields ← layout.read? cs
  match fields.timestamp with
  | some t => some t
  | none =>
    match fields.local 0, fields.date with
    | .ok (d, second, nano), _ => Timestamp.ofLocal? d second nano 0
    | .error _, .ok d => Timestamp.ofLocal? d 0 0 0
    | .error _, .error _ => none

end Layout

end Formula.Calendar
