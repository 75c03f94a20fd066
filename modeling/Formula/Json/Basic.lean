import Formula.Decimal.Style

set_option autoImplicit false

/-!
# JSON documents

A document as it is written: the members of an object stand in the order of the text and may repeat
names, and integers are kept apart from other numbers.

## Main definitions

* `Formula.Json` — a document.
* `Formula.Json.text` — its text, without blanks.
-/

namespace Formula

/-- A number of a document. -/
inductive JsonNumber where
  /-- An integer. -/
  | int (i : Int)
  /-- A finite number, written with a point or an exponent. -/
  | real (x : Double)
deriving DecidableEq

/-- A JSON document. -/
inductive Json where
  | null
  | bool (b : Bool)
  | number (n : JsonNumber)
  | string (s : String)
  | array (items : List Json)
  | object (members : List (String × Json))

instance : Inhabited Json :=
  ⟨.null⟩

/-- The text of a number. -/
def JsonNumber.text (n : JsonNumber) : String :=
  match n with
  | int i => Double.intText i
  | real x => x.pointText

/-- The binary64 number nearest to a number. -/
def JsonNumber.toDouble (n : JsonNumber) : Double :=
  match n with
  | int i => Double.ofInt i
  | real x => x

namespace Json

/-- Two hexadecimal digits. -/
def hexPair (n : Nat) : List Char :=
  [Nat.digitChar (n / 16), Nat.digitChar (n % 16)]

/-- A character inside quotes: the quote, the backslash and controls are escaped. -/
def escape (c : Char) : List Char :=
  if c = '"' ∨ c = '\\' then ['\\', c]
  else if c = '\x08' then ['\\', 'b']
  else if c = '\x0c' then ['\\', 'f']
  else if c = '\n' then ['\\', 'n']
  else if c = '\r' then ['\\', 'r']
  else if c = '\t' then ['\\', 't']
  else if c.toNat < 0x20 then ['\\', 'u', '0', '0'] ++ hexPair c.toNat
  else [c]

/-- A text between quotes. -/
def stringText (s : String) : String :=
  String.ofList ('"' :: (s.toList.flatMap escape ++ ['"']))

mutual

/-- The text of a document, without blanks. -/
def text : Json → String
  | .null => "null"
  | .bool b => if b then "true" else "false"
  | .number n => n.text
  | .string s => stringText s
  | .array items => "[" ++ itemsText items ++ "]"
  | .object members => "\x7b" ++ membersText members ++ "\x7d"

/-- Items with commas between them. -/
def itemsText : List Json → String
  | [] => ""
  | [j] => text j
  | j :: k :: rest => text j ++ "," ++ itemsText (k :: rest)

/-- Members with commas between them. -/
def membersText : List (String × Json) → String
  | [] => ""
  | [(name, j)] => stringText name ++ ":" ++ text j
  | (name, j) :: other :: rest =>
    stringText name ++ ":" ++ text j ++ "," ++ membersText (other :: rest)

end

/-- The value of the last member with a name. -/
def member? (j : Json) (name : String) : Option Json :=
  match j with
  | .object members => (members.reverse.find? fun m => m.1 == name).map Prod.snd
  | _ => none

end Json

end Formula
