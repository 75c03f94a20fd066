import Formula.Arity
import Formula.Decimal.Style
import Formula.Text.Quoted

set_option autoImplicit false

/-!
# Failures of evaluation

## Main definitions

* `Formula.Complaint` — why a function refuses its arguments.
* `Formula.EvalError` — why an evaluation has no value.
* `Formula.EvalError.message` — the wording.
-/

namespace Formula

/-- Why a function refuses its arguments. -/
inductive Complaint where
  /-- The number of arguments is not one the function takes. -/
  | wrongCount (expected : Arity) (found : Nat)
  /-- An argument that is needed is not there; counted from `0`. -/
  | missingArgument (index : Nat)
  | shiftOutOfRange (amount : Int)
  | endBeforeStart (stop start : Int)
  | negativeCount
  /-- The text would be longer than the given number of bytes. -/
  | tooLong (limit : Nat)
  | unknownMode (mode : String)
  | precisionOutOfRange
  /-- A directive of a template has no argument left. -/
  | nothingFor (verb : Char)
  | unknownVerb (verb : Char)
  | danglingPercent
  /-- Bytes are not the encoding of a text. -/
  | notText
  | noValues
  | negativeArgument
  | argumentNotPositive
  | invalidBase (base : Double)
  | noInteger (x : Double)
  | invalidTimestamp (text : String)
  | layoutMismatch (text layout : String)
  | invalidLayout (layout : String)
  | secondsOutOfRange (seconds : Double)
  | resultOutOfRange
  /-- The argument is not written in the notation that the function reads. -/
  | unreadable
  /-- A complaint in the words of an added function. -/
  | custom (message : String)
deriving DecidableEq

/-- The wording of a complaint, if it has more to say than the name of the function. -/
def Complaint.message? (c : Complaint) : Option String :=
  match c with
  | wrongCount expected found =>
    some ("expects " ++ expected.text ++ " arguments, got " ++ Nat.repr found)
  | missingArgument index => some ("missing argument " ++ Nat.repr (index + 1))
  | shiftOutOfRange amount =>
    some ("shift amount " ++ Double.intText amount ++ " out of range")
  | endBeforeStart stop start =>
    some ("end " ++ Double.intText stop ++ " is before start " ++ Double.intText start)
  | negativeCount => some "negative repeat count"
  | tooLong limit => some ("result would exceed " ++ Nat.repr limit ++ " bytes")
  | unknownMode mode =>
    some ("unknown mode " ++ Text.quoted mode ++ ", expected \"char\" or \"word\"")
  | precisionOutOfRange => some "precision out of range"
  | nothingFor verb => some ("missing argument for %" ++ verb.toString)
  | unknownVerb verb => some ("unknown verb %" ++ verb.toString)
  | danglingPercent => some "dangling '%' at end of template"
  | notText => some "decoded bytes are not valid UTF-8"
  | noValues => some "no values"
  | negativeArgument => some "negative argument"
  | argumentNotPositive => some "argument must be positive"
  | invalidBase base => some ("invalid base " ++ base.text)
  | noInteger x => some ("cannot convert " ++ x.text ++ " to an integer")
  | invalidTimestamp text => some ("invalid timestamp " ++ Text.quoted text)
  | layoutMismatch text layout =>
    some (Text.quoted text ++ " does not match layout " ++ Text.quoted layout)
  | invalidLayout layout => some ("invalid layout " ++ Text.quoted layout)
  | secondsOutOfRange seconds => some (seconds.text ++ " seconds is out of range")
  | resultOutOfRange => some "result is out of range"
  | unreadable => none
  | custom message => some message

/-- Why an evaluation has no value. -/
inductive EvalError where
  | undefinedVariable (name : String)
  | unknownKey (key : String)
  | indexOutOfBounds (index : Int) (length : Nat)
  /-- A value of a kind without entries. -/
  | notIndexable (kind : String)
  /-- An operand or argument of the wrong kind. -/
  | typeMismatch (operation expected found : String)
  | divisionByZero
  | invalidRegex (pattern : String)
  /-- A function refuses its arguments. -/
  | function (name : String) (complaint : Complaint)
  | cancelled
  | deadlineExceeded
deriving DecidableEq

namespace EvalError

/-- The wording of a failure. -/
def message (e : EvalError) : String :=
  match e with
  | undefinedVariable name => "undefined variable " ++ Text.quoted name
  | unknownKey key => "unknown key " ++ Text.quoted key
  | indexOutOfBounds index length =>
    "index " ++ Double.intText index ++ " out of bounds for length " ++ Nat.repr length
  | notIndexable kind => "cannot index " ++ kind
  | typeMismatch operation expected found =>
    operation ++ ": expected " ++ expected ++ ", got " ++ found
  | divisionByZero => "division by zero"
  | invalidRegex pattern => "invalid regular expression " ++ Text.quoted pattern
  | function name complaint =>
    match complaint.message? with
    | some text => name ++ ": " ++ text
    | none => name
  | cancelled => "evaluation cancelled"
  | deadlineExceeded => "evaluation deadline exceeded"

/-- Whether the context of the evaluation was the reason. -/
def isCancellation (e : EvalError) : Bool :=
  match e with
  | cancelled | deadlineExceeded => true
  | _ => false

end EvalError

end Formula
