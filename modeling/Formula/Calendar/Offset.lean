import Formula.Text.Blank
import Formula.Decimal.Style

set_option autoImplicit false

/-!
# Digits and offsets in times

The pieces shared by all written times: runs of digits of bounded length, padded numbers, fractions of
a second, and offsets from universal time.
-/

namespace Formula.Calendar

/-- The largest number that a run of digits may denote. -/
def greatestNumber : Nat := 0x7fffffffffffffff

/-- The number written by between `least` and `most` digits. -/
def number? (least most : Nat) (cs : List Char) : Option (Nat × List Char) :=
  let ds := (cs.take most).takeWhile Char.isDigit
  let n := ds.foldl (fun n c => n * 10 + (c.toNat - '0'.toNat)) 0
  if ds.length < least ∨ greatestNumber < n then none else some (n, cs.drop ds.length)

/-- The number written by at least one digit, however many there are. -/
def anyNumber? (cs : List Char) : Option (Nat × List Char) :=
  number? 1 cs.length cs

/-- The text after a given character. -/
def char? (c : Char) : List Char → Option (List Char)
  | [] => none
  | d :: rest => if c = d then some rest else none

/-- The nanoseconds written by digits behind a point; digits after the ninth are skipped. -/
def nanos? (cs : List Char) : Option (Nat × List Char) :=
  (number? 1 9 cs).map fun (n, rest) =>
    (n * Nat.pow 10 (9 - (cs.length - rest.length)), rest.dropWhile Char.isDigit)

/-- The nanoseconds written by exactly `places` digits. -/
def nanosFixed? (places : Nat) (cs : List Char) : Option (Nat × List Char) :=
  (number? places places cs).map fun (n, rest) => (n * Nat.pow 10 (9 - places), rest)

/-- How the hours and minutes of an offset are set apart and which short forms it has. -/
structure OffsetForm where
  /-- Skips what may stand between hours and minutes. -/
  separator : List Char → Option (List Char)
  /-- Whether `Z` stands for offset zero. -/
  zulu : Bool
  /-- Whether the minutes may be missing. -/
  hoursOnly : Bool

/-- An offset with a colon and all its digits, or `Z`. -/
def OffsetForm.strict : OffsetForm :=
  ⟨char? ':', true, false⟩

/-- An offset with any colons and blanks between its hours and minutes. -/
def OffsetForm.relaxed (zulu hoursOnly : Bool) : OffsetForm :=
  ⟨fun cs => some (cs.dropWhile fun c => c == ':' || Text.isBlank c), zulu, hoursOnly⟩

/-- The minutes of an offset. -/
def offsetMinutes? (hoursOnly : Bool) : List Char → Option (Nat × List Char)
  | [] => if hoursOnly then some (0, []) else none
  | a :: b :: rest =>
    if a.isDigit ∧ b.isDigit ∧ a < '6' then
      some ((a.toNat - '0'.toNat) * 10 + (b.toNat - '0'.toNat), rest)
    else none
  | _ => none

/-- An offset, in seconds. -/
def offset? (form : OffsetForm) (cs : List Char) : Option (Int × List Char) :=
  match cs with
  | [] => none
  | c :: rest =>
    if form.zulu ∧ (c = 'Z' ∨ c = 'z') then some (0, rest)
    else if c = '+' ∨ c = '-' ∨ c = '−' then do
      let (hours, rest) ← number? 2 2 rest
      let rest ← form.separator rest
      let (minutes, rest) ← offsetMinutes? form.hoursOnly rest
      let seconds : Int := (hours * 3600 + minutes * 60 : Nat)
      some (if c = '+' then seconds else -seconds, rest)
    else none

/-! ## Writing -/

/-- Characters in front of a text up to a width. -/
def padLeft (fill : Char) (width : Nat) (cs : List Char) : List Char :=
  List.replicate (width - cs.length) fill ++ cs

/-- A number with leading zeros up to a width. -/
def zeroPadded (width n : Nat) : List Char :=
  padLeft '0' width (Decimal.digitChars n)

/-- A point and the fewest of three, six or nine places, or nothing for zero. -/
def fractionChars (nano : Nat) : List Char :=
  if nano = 0 then []
  else if nano % 1000000 = 0 then '.' :: zeroPadded 3 (nano / 1000000)
  else if nano % 1000 = 0 then '.' :: zeroPadded 6 (nano / 1000)
  else '.' :: zeroPadded 9 nano

/-- How much of an offset is written. -/
inductive OffsetPrecision where
  /-- Hours. -/
  | hours
  /-- Hours and minutes. -/
  | minutes
  /-- Hours, minutes and seconds. -/
  | seconds
deriving DecidableEq

/-- An offset with its sign. Hours are cut off; minutes are rounded. -/
def offsetChars (precision : OffsetPrecision) (colon : Bool) (offset : Int) : List Char :=
  let sign := if offset < 0 then '-' else '+'
  let seconds := offset.natAbs
  let mark := if colon then [':'] else []
  match precision with
  | .hours => sign :: zeroPadded 2 (seconds / 3600)
  | .minutes =>
    let minutes := (seconds + 30) / 60
    sign :: (zeroPadded 2 (minutes / 60) ++ mark ++ zeroPadded 2 (minutes % 60))
  | .seconds =>
    let minutes := seconds / 60
    sign :: (zeroPadded 2 (minutes / 60) ++ mark ++ zeroPadded 2 (minutes % 60) ++ mark ++
      zeroPadded 2 (seconds % 60))

end Formula.Calendar
