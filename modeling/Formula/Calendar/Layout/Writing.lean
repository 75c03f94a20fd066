import Formula.Calendar.Layout.Basic
import Formula.Calendar.Rfc3339

set_option autoImplicit false

/-!
# Writing times by a layout

## Main definitions

* `Formula.Calendar.Item.write?` — the text of one step.
* `Formula.Calendar.Layout.write?` — the text of a time, unless the layout has a step that cannot be
  written.
-/

namespace Formula.Calendar

/-- The names of the months. -/
def monthNames : List String :=
  ["January", "February", "March", "April", "May", "June", "July", "August", "September",
    "October", "November", "December"]

/-- The names of the days of the week, from Monday on. -/
def weekdayNames : List String :=
  ["Monday", "Tuesday", "Wednesday", "Thursday", "Friday", "Saturday", "Sunday"]

/-- A name, or its first three letters. -/
def nameChars (long : Bool) (name : String) : List Char :=
  if long then name.toList else name.toList.take 3

namespace Padding

/-- An integer of at least the given width, its sign included. -/
def int (padding : Padding) (width : Nat) (plus : Bool) (i : Int) : List Char :=
  let sign : List Char := if i < 0 then ['-'] else if plus then ['+'] else []
  let digits := Decimal.digitChars i.natAbs
  match padding with
  | .zeros => sign ++ padLeft '0' (width - sign.length) digits
  | .blanks => padLeft ' ' width (sign ++ digits)
  | .nothing => sign ++ digits

/-- A number of two digits. Tens that no digit stands for are written as the characters after `9`. -/
def two (padding : Padding) (n : Nat) : List Char :=
  let ones := Char.ofNat ('0'.toNat + n % 10)
  if n / 10 = 0 then
    match padding with
    | .zeros => ['0', ones]
    | .blanks => [' ', ones]
    | .nothing => [ones]
  else [Char.ofNat ('0'.toNat + n / 10), ones]

/-- A year of at least four digits, with a sign outside 0 to 9999. -/
def year (padding : Padding) (y : Int) : List Char :=
  if 0 ≤ y ∧ y ≤ 9999 then padding.int 4 false y else padding.int 5 true y

end Padding

/-- The hour on a clock face. -/
def faceHour (hour : Nat) : Nat :=
  if hour % 12 = 0 then 12 else hour % 12

/-- A part of a time as a number. A century is kept modulo 256. -/
def Part.write (part : Part) (padding : Padding) (t : Timestamp) : List Char :=
  let d := t.localDate
  match part with
  | .year => padding.year d.year
  | .century => padding.two (d.year / 100 % 256).toNat
  | .yearOfCentury => padding.two (d.year % 100).toNat
  | .isoYear => padding.year d.isoYear
  | .isoYearOfCentury => padding.two (d.isoYear % 100).toNat
  | .quarter => Decimal.digitChars d.quarter
  | .month => padding.two d.month
  | .day => padding.two d.day
  | .weekFromSunday => padding.two (d.weekFrom 6)
  | .weekFromMonday => padding.two (d.weekFrom 0)
  | .isoWeek => padding.two d.isoWeek
  | .daysFromSunday => Decimal.digitChars ((d.weekday + 1) % 7)
  | .dayOfWeek => Decimal.digitChars (d.weekday + 1)
  | .ordinal => padding.int 3 false d.ordinal
  | .hour => padding.two t.localHour
  | .hourOfHalf => padding.two (faceHour t.localHour)
  | .minute => padding.two t.localMinute
  | .second => padding.two t.shownSecond
  | .nano => padding.int 9 false t.shownNano
  | .unixSeconds => padding.int 9 false t.unixSeconds

/-- The leading digits of a fraction of a second. -/
def placesChars (places nano : Nat) : List Char :=
  zeroPadded places (nano / Nat.pow 10 (9 - places))

/-- The text of one step, if it can be written. -/
def Item.write? (t : Timestamp) : Item → Option (List Char)
  | .literal cs => some cs
  | .blanks cs => some cs
  | .number part padding => some (part.write padding t)
  | .monthName long => (monthNames[t.localDate.month - 1]?).map (nameChars long)
  | .weekdayName long => (weekdayNames[t.localDate.weekday]?).map (nameChars long)
  | .halfOfDay capitals =>
    some (match decide (12 ≤ t.localHour), capitals with
      | false, true => ['A', 'M']
      | true, true => ['P', 'M']
      | false, false => ['a', 'm']
      | true, false => ['p', 'm'])
  | .fraction none => some (fractionChars t.shownNano)
  | .fraction (some places) => some ('.' :: placesChars places t.shownNano)
  | .bareFraction places => some (placesChars places t.shownNano)
  | .zone => some (offsetChars .minutes true t.offset)
  | .offset precision colon => some (offsetChars precision colon t.offset)
  | .interchange => some (t.charsWith false)
  | .anyOffset => none
  | .unknown => none

namespace Layout

/-- The text of a time, if every step can be written. -/
def write? (layout : Layout) (t : Timestamp) : Option (List Char) :=
  (layout.mapM (Item.write? t)).map List.flatten

end Layout

end Formula.Calendar
