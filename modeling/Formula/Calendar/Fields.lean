import Formula.Calendar.Timestamp

set_option autoImplicit false

/-!
# Fields of a time

Reading a time by a layout collects fields, each of which may be given once, or again with the same
value. Afterwards the fields that suffice determine a date and a time of day, and all others have to
agree with it.

## Main definitions

* `Formula.Calendar.Fields` — the fields that were given.
* `Formula.Calendar.Fields.date`, `Formula.Calendar.Fields.timeOfDay`,
  `Formula.Calendar.Fields.local`, `Formula.Calendar.Fields.timestamp` — what they determine.
-/

namespace Formula.Calendar

/-- Why fields determine nothing. -/
inductive Trouble where
  /-- Fields are missing. -/
  | missing
  /-- Fields contradict each other. -/
  | impossible
  /-- A field has a value that no date or time has. -/
  | outOfRange
deriving DecidableEq

/-- The fields of a date and time, as far as they are given. -/
structure Fields where
  year : Option Int := none
  century : Option Int := none
  yearOfCentury : Option Int := none
  isoYear : Option Int := none
  isoYearOfCentury : Option Int := none
  quarter : Option Nat := none
  month : Option Nat := none
  weekFromSunday : Option Nat := none
  weekFromMonday : Option Nat := none
  isoWeek : Option Nat := none
  weekday : Option Weekday := none
  ordinal : Option Nat := none
  day : Option Nat := none
  afternoon : Option Bool := none
  hourOfHalf : Option Nat := none
  minute : Option Nat := none
  second : Option Nat := none
  nano : Option Nat := none
  unixSeconds : Option Int := none
  offset : Option Int := none

/-- A field with a further value, unless it has another one. -/
def agree {α : Type} [DecidableEq α] (old : Option α) (new : α) : Option (Option α) :=
  match old with
  | none => some (some new)
  | some a => if a = new then some (some a) else none

/-- A number between bounds. -/
def within (least most n : Nat) : Option Nat :=
  if least ≤ n ∧ n ≤ most then some n else none

namespace Fields

/-- Sets the hour of the day. -/
def setHour (f : Fields) (hour : Nat) : Option Fields := do
  let hour ← within 0 23 hour
  let afternoon ← agree f.afternoon (decide (12 ≤ hour))
  let hourOfHalf ← agree f.hourOfHalf (hour % 12)
  some { f with afternoon, hourOfHalf }

/-- The year from a full year, a century and a year of the century. A year of the century alone lies
between 1970 and 2069. -/
def resolveYear (full century rest : Option Int) : Except Trouble (Option Int) :=
  match full, century, rest with
  | y, none, none => .ok y
  | some y, c, r =>
    if y < 0 then .error .impossible
    else if c.getD (y / 100) = y / 100 ∧ r.getD (y % 100) = y % 100 then .ok (some y)
    else .error .impossible
  | none, some c, some r => if c < 0 then .error .impossible else .ok (some (c * 100 + r))
  | none, none, some r => .ok (some (if r < 70 then 2000 + r else 1900 + r))
  | none, some _, none => .error .missing

/-- Whether a field is missing or has the given value. -/
def admits {α : Type} [DecidableEq α] (field : Option α) (value : α) : Bool :=
  match field with
  | none => true
  | some a => decide (a = value)

/-- Whether parts of a year are missing or are the parts of the given one. Years before 0 have no
parts. -/
def admitsYear (full century rest : Option Int) (year : Int) : Bool :=
  admits full year &&
    if 0 ≤ year then admits century (year / 100) && admits rest (year % 100)
    else century.isNone && rest.isNone

/-- Whether year, month and day agree with a date. -/
def admitsYmd (f : Fields) (d : Date) : Bool :=
  admitsYear f.year f.century f.yearOfCentury d.year && admits f.month d.month && admits f.day d.day

/-- Whether the numbered week and the day of the week agree with a date. -/
def admitsIsoWeek (f : Fields) (d : Date) : Bool :=
  admitsYear f.isoYear none f.isoYearOfCentury d.isoYear && admits f.isoWeek d.isoWeek &&
    admits f.weekday d.weekday

/-- Whether the day of the year and the weeks of the year agree with a date. -/
def admitsOrdinal (f : Fields) (d : Date) : Bool :=
  admits f.ordinal d.ordinal && admits f.weekFromSunday (d.weekFrom 6) &&
    admits f.weekFromMonday (d.weekFrom 0)

/-- A date that has to exist, or else is out of range. -/
def found (d : Option Date) : Except Trouble Date :=
  match d with
  | some d => .ok d
  | none => .error .outOfRange

/-- A date in a week of a year. The year has to exist; the day has to lie in it. -/
def inWeek (year : Int) (week : Nat) (weekday start : Weekday) : Except Trouble Date :=
  match Date.ofOrdinal? year 1 with
  | none => .error .outOfRange
  | some _ =>
    match Date.ofWeek? year week weekday start with
    | some d => .ok d
    | none => .error .impossible

/-- The date that the fields determine: by month and day, by day of the year, by week of the year and
day of the week, or by numbered week. The other fields have to agree with it. -/
def date (f : Fields) : Except Trouble Date := do
  let year ← resolveYear f.year f.century f.yearOfCentury
  let isoYear ← resolveYear f.isoYear none f.isoYearOfCentury
  let (agrees, d) : Bool × Date ←
    match year, f.month, f.day, f.ordinal, f.weekFromSunday, f.weekFromMonday, f.weekday with
    | some y, some m, some d, _, _, _, _ => do
      let d ← found (Date.ofYmd? y m d)
      pure (f.admitsIsoWeek d && f.admitsOrdinal d, d)
    | some y, _, _, some o, _, _, _ => do
      let d ← found (Date.ofOrdinal? y o)
      pure (f.admitsYmd d && f.admitsIsoWeek d && f.admitsOrdinal d, d)
    | some y, _, _, _, some w, _, some weekday => do
      let d ← inWeek y w weekday 6
      pure (f.admitsYmd d && f.admitsIsoWeek d && f.admitsOrdinal d, d)
    | some y, _, _, _, _, some w, some weekday => do
      let d ← inWeek y w weekday 0
      pure (f.admitsYmd d && f.admitsIsoWeek d && f.admitsOrdinal d, d)
    | _, _, _, _, _, _, weekday =>
      match isoYear, f.isoWeek, weekday with
      | some y, some w, some weekday => do
        let d ← found (Date.ofIsoWeek? y w weekday)
        pure (f.admitsYmd d && f.admitsOrdinal d, d)
      | _, _, _ => .error .missing
  if agrees && admits f.quarter d.quarter then .ok d else .error .impossible

/-- The second of the day and the nanosecond. Seconds may be missing, and nanoseconds with them;
second 60 is a leap second. -/
def timeOfDay (f : Fields) : Except Trouble (Nat × Nat) :=
  match f.afternoon, f.hourOfHalf, f.minute with
  | some afternoon, some hour, some minute =>
    let hour := if afternoon then hour + 12 else hour
    let (second, leap) := match f.second with
      | none => (0, 0)
      | some s => if s = 60 then (59, nanosPerSecond) else (s, 0)
    if f.second.isNone ∧ f.nano.isSome then .error .missing
    else .ok (hour * 3600 + minute * 60 + second, leap + f.nano.getD 0)
  | _, _, _ => .error .missing

/-- The date and time of day that complete fields determine together with a count of seconds since
the start of 1970, at an offset. A leap second counts as the second before or after it. -/
def checkUnix (f : Fields) (offset : Int) (d : Date) (second nano : Nat) : Bool :=
  match f.unixSeconds with
  | none => true
  | some given =>
    let seconds : Int := d.days * secondsPerDay + second - offset
    decide (given = seconds) || (decide (nanosPerSecond ≤ nano) && decide (given = seconds + 1))

/-- The date and time of day that a count of seconds determines, with the other fields agreeing. -/
def ofUnix (f : Fields) (offset seconds : Int) : Except Trouble (Date × Nat × Nat) := do
  let total := seconds + offset
  if total < -0x8000000000000000 ∨ 0x8000000000000000 ≤ total then .error .outOfRange
  let start ← found (Date.inRange? ⟨total / secondsPerDay⟩)
  let secondOfDay := (total % secondsPerDay).toNat
  let (start, secondOfDay) ←
    if f.second = some 60 then
      if secondOfDay % 60 = 59 then .ok (start, secondOfDay)
      else if secondOfDay % 60 = 0 then
        if secondOfDay = 0 then .ok (⟨start.days - 1⟩, secondsPerDay - 1)
        else .ok (start, secondOfDay - 1)
      else .error .impossible
    else .ok (start, secondOfDay)
  let filled : Option Fields := do
    let second ← if f.second = some 60 then some f.second else agree f.second (secondOfDay % 60)
    let year ← agree f.year start.year
    let ordinal ← agree f.ordinal start.ordinal
    let f ← ({ f with second, year, ordinal } : Fields).setHour (secondOfDay / 3600)
    let minute ← agree f.minute (secondOfDay / 60 % 60)
    some { f with minute }
  match filled with
  | none => .error .impossible
  | some f => do
    let d ← f.date
    let (second, nano) ← f.timeOfDay
    .ok (d, second, nano)

/-- The local date and time of day that the fields determine at an offset. -/
def «local» (f : Fields) (offset : Int) : Except Trouble (Date × Nat × Nat) :=
  match f.date, f.timeOfDay with
  | .ok d, .ok (second, nano) =>
    if f.checkUnix offset d second nano then .ok (d, second, nano) else .error .impossible
  | d, t =>
    let troubles := [match d with | .error e => some e | .ok _ => none,
      match t with | .error e => some e | .ok _ => none]
    match f.unixSeconds with
    | some seconds =>
      if troubles.contains (some .outOfRange) then .error .outOfRange
      else if troubles.contains (some .impossible) then .error .impossible
      else f.ofUnix offset seconds
    | none => .error ((troubles.findSome? id).getD .missing)

/-- The timestamp that the fields determine. A count of seconds without an offset is universal
time. -/
def timestamp (f : Fields) : Option Timestamp :=
  let offset : Option Int := match f.offset, f.unixSeconds with
    | some o, _ => some o
    | none, some _ => some 0
    | none, none => none
  match offset with
  | none => none
  | some offset =>
    match f.local offset with
    | .error _ => none
    | .ok (d, second, nano) =>
      if offset.natAbs < secondsPerDay then Timestamp.ofLocal? d second nano offset else none

end Fields

end Formula.Calendar
