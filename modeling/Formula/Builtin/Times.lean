import Formula.Builtin.Argument
import Formula.Calendar.Layout.Reading
import Formula.Calendar.Layout.Writing
import Formula.Double.Arithmetic
import Formula.Language.Basic

set_option autoImplicit false

/-!
# Functions on timestamps

Texts in the common notation are taken for timestamps. Nothing here reads a clock.
-/

namespace Formula.Builtin.Times

/-- A timestamp from a text in the common notation. -/
def parseIsoTime (args : List Value) : Except EvalError Value := do
  return .timestamp (← Argument.timestamp "parseISOTime" args 0)

/-- A timestamp from a text in a given layout. -/
def parseTime (args : List Value) : Except EvalError Value := do
  let s ← Argument.string "parseTime" args 0
  let layout ← Argument.string "parseTime" args 1
  match (Calendar.Layout.ofChars layout.toList).timestamp? s.toList with
  | some t => return .timestamp t
  | none => throw (.function "parseTime" (.layoutMismatch s layout))

/-- A timestamp as text in a given layout. -/
def strftime (args : List Value) : Except EvalError Value := do
  let t ← Argument.timestamp "strftime" args 0
  let layout ← Argument.string "strftime" args 1
  match (Calendar.Layout.ofChars layout.toList).write? t with
  | some cs => return .ofChars cs
  | none => throw (.function "strftime" (.invalidLayout layout))

/-- All arguments as timestamps. -/
def timestamps (name : String) (args : List Value) : Except EvalError (List Timestamp) :=
  (List.range args.length).mapM fun i => Argument.timestamp name args i

/-- The timestamp that remains when each of a list is held against the one chosen so far. -/
def choose (name : String) (replaces : Ordering → Bool) (args : List Value) :
    Except EvalError Value := do
  match ← timestamps name args with
  | [] => throw (.function name .noValues)
  | t :: rest =>
    return .timestamp (rest.foldl (fun best u => if replaces (u.compare best) then u else best) t)

/-- The first of the arguments with the smallest instant. -/
def earliest (args : List Value) : Except EvalError Value :=
  choose "earliest" Ordering.isLT args

/-- The last of the arguments with the largest instant. -/
def latest (args : List Value) : Except EvalError Value :=
  choose "latest" Ordering.isGE args

/-- Whether the year has a 29 February. -/
def isLeapYear (args : List Value) : Except EvalError Value := do
  let t ← Argument.timestamp "isLeapYear" args 0
  return .bool (Date.ofYmd? t.localDate.year 2 29).isSome

/-- Whether the day is one from Monday to Friday. -/
def isWeekDay (args : List Value) : Except EvalError Value := do
  let t ← Argument.timestamp "isWeekDay" args 0
  return .bool (decide (t.localDate.weekday < 5))

/-- The greatest number of seconds that is computed with. -/
def greatestSeconds : Nat := 1000000000000000

/-- A number of seconds as the nearest number of milliseconds. -/
def millis (name : String) (seconds : Double) : Except EvalError Int :=
  let outside : EvalError := .function name (.secondsOutOfRange seconds)
  if !seconds.isFinite || (Double.ofNat greatestSeconds).lt seconds.abs then .error outside
  else
    match (seconds.mul (.ofNat 1000)).round.toInt? with
    | some i => .ok i
    | none => .error outside

/-- The timestamp so many seconds later. -/
def addSeconds (args : List Value) : Except EvalError Value := do
  let t ← Argument.timestamp "addSeconds" args 0
  let delta ← millis "addSeconds" (← Argument.number "addSeconds" args 1)
  match t.addMillis? delta with
  | some t => return .timestamp t
  | none => throw (.function "addSeconds" .resultOutOfRange)

/-- The seconds since the start of 1970. -/
def unix (args : List Value) : Except EvalError Value := do
  let t ← Argument.timestamp "unix" args 0
  return .number ((Double.ofInt t.unixMillis).div (.ofNat 1000))

/-- The timestamp so many seconds after the start of 1970. -/
def fromUnix (args : List Value) : Except EvalError Value := do
  let delta ← millis "fromUnix" (← Argument.number "fromUnix" args 0)
  match Timestamp.ofUnixMillis? delta with
  | some t => return .timestamp t
  | none => throw (.function "fromUnix" .resultOutOfRange)

/-- The functions on timestamps. -/
def library : Library where
  category := "time"
  definitions := [
    .plain "parseISOTime" (.fixed 1) parseIsoTime,
    .plain "parseTime" (.fixed 2) parseTime,
    .plain "strftime" (.fixed 2) strftime,
    .plain "earliest" (.range 1 none) earliest,
    .plain "latest" (.range 1 none) latest,
    .plain "isLeapYear" (.fixed 1) isLeapYear,
    .plain "isWeekDay" (.fixed 1) isWeekDay,
    .plain "addSeconds" (.fixed 2) addSeconds,
    .plain "unix" (.fixed 1) unix,
    .plain "fromUnix" (.fixed 1) fromUnix]

end Formula.Builtin.Times
