import Formula.Calendar.Offset
import Formula.Calendar.Timestamp

set_option autoImplicit false

/-!
# The interchange notation of timestamps

A date, `T`, a time of day with as many of three, six or nine places as are needed, and an offset:
`2024-02-29T12:30:00.5+02:00`. A leap second is written as second 60. Years outside 0 to 9999 carry
a sign; such years are written, and are read only by the extended reader.

## Main definitions

* `Formula.Timestamp.chars`, `Formula.Timestamp.text` — writing.
* `Formula.Timestamp.ofChars?` — reading.
-/

namespace Formula

namespace Timestamp

open Calendar

/-! ## Writing -/

/-- A year: four digits, with a sign outside 0 to 9999. -/
def yearChars (year : Int) : List Char :=
  if 0 ≤ year ∧ year ≤ 9999 then zeroPadded 4 year.toNat
  else (if year < 0 then '-' else '+') :: zeroPadded 4 year.natAbs

/-- A date as year, month and day. -/
def dateChars (d : Date) : List Char :=
  yearChars d.year ++ '-' :: zeroPadded 2 d.month ++ '-' :: zeroPadded 2 d.day

/-- The hour of the local day. -/
def localHour (t : Timestamp) : Nat :=
  t.localSecond / 3600

/-- The minute of the local hour. -/
def localMinute (t : Timestamp) : Nat :=
  t.localSecond / 60 % 60

/-- The second of the local minute, 60 for a leap second. -/
def shownSecond (t : Timestamp) : Nat :=
  t.localSecond % 60 + t.nano / nanosPerSecond

/-- The nanosecond of the second that is shown. -/
def shownNano (t : Timestamp) : Nat :=
  t.nano % nanosPerSecond

/-- A timestamp in its offset. `zulu` says whether offset zero is written as `Z`. The local date is written
whatever it is: a date in universal time that the calendar holds may have a local date a day outside it,
and where the program cannot write such a date, it ends. -/
def charsWith (zulu : Bool) (t : Timestamp) : List Char :=
  dateChars t.localDate ++ 'T' :: zeroPadded 2 t.localHour ++ ':' :: zeroPadded 2 t.localMinute ++
    ':' :: zeroPadded 2 t.shownSecond ++ fractionChars t.shownNano ++
    if zulu && t.offset == 0 then ['Z'] else offsetChars .minutes true t.offset

/-- A timestamp in its offset, `Z` for offset zero. -/
def chars (t : Timestamp) : List Char :=
  t.charsWith true

/-- The text of a timestamp. -/
def text (t : Timestamp) : String :=
  String.ofList t.chars

/-! ## Reading -/

/-- The largest offset that is read: a minute less than a day. -/
def greatestOffset : Nat :=
  (23 * 60 + 59) * 60

/-- A year: four digits or, in the extended notation, a sign and at least four digits. -/
def year? (extended : Bool) (cs : List Char) : Option (Int × List Char) :=
  match extended, cs with
  | true, '-' :: rest => (number? 4 rest.length rest).map fun (n, rest) => (-(n : Int), rest)
  | true, '+' :: rest => (number? 4 rest.length rest).map fun (n, rest) => ((n : Int), rest)
  | _, cs => (number? 4 4 cs).map fun (n, rest) => ((n : Int), rest)

/-- What separates the date from the time of day. -/
def dateEnd? : List Char → Option (List Char)
  | c :: rest => if c = 'T' ∨ c = 't' ∨ c = ' ' then some rest else none
  | [] => none

/-- The fraction of a second, if there is a point. -/
def fraction? : List Char → Option (Nat × List Char)
  | '.' :: rest => nanos? rest
  | rest => some (0, rest)

/-- The timestamp that a whole text denotes. Second 60 is a leap second, in any minute. -/
def ofCharsWith? (extended : Bool) (cs : List Char) : Option Timestamp := do
  let (year, rest) ← year? extended cs
  let (month, rest) ← number? 2 2 (← char? '-' rest)
  let (day, rest) ← number? 2 2 (← char? '-' rest)
  let (hour, rest) ← number? 2 2 (← dateEnd? rest)
  let (minute, rest) ← number? 2 2 (← char? ':' rest)
  let (second, rest) ← number? 2 2 (← char? ':' rest)
  let (nano, rest) ← fraction? rest
  let (offset, rest) ← offset? .strict rest
  let date ← Date.ofYmd? year month day
  if rest = [] ∧ hour ≤ 23 ∧ minute ≤ 59 ∧ second ≤ 60 ∧ offset.natAbs ≤ greatestOffset then
    let (second, nano) := if second = 60 then (59, nanosPerSecond + nano) else (second, nano)
    ofLocal? date (hour * 3600 + minute * 60 + second) nano offset
  else none

/-- The timestamp that a text with a year of four digits denotes. -/
def ofChars? (cs : List Char) : Option Timestamp :=
  ofCharsWith? false cs

/-- The timestamp that a text denotes, whose year may have a sign. -/
def ofExtended? (cs : List Char) : Option Timestamp :=
  ofCharsWith? true cs

end Timestamp

end Formula
