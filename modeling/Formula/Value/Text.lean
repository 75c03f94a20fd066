import Formula.Calendar.Rfc3339
import Formula.Json.Basic
import Formula.Value.Basic

set_option autoImplicit false

/-!
# Values as text and as documents

## Main definitions

* `Formula.Value.toJson`, `Formula.Value.ofJson` — values as JSON documents.
* `Formula.Value.encode` — the JSON text of a value, written without building a document.
* `Formula.Value.display` — how a value is shown: texts as they are, arrays and maps as JSON.
-/

namespace Formula

namespace Value

/-- A number as a document. What JSON has no number for is null. -/
def numberToJson (x : Double) : Json :=
  match x.intBelow? 0x20000000000000 with
  | some i => .number (.int i)
  | none => if x.isFinite then .number (.real x) else .null

mutual

/-- The document of a value. Timestamps become texts. -/
def toJson : Value → Json
  | .null => .null
  | .bool b => .bool b
  | .number x => numberToJson x
  | .string s => .string s
  | .array items => .array (itemsToJson items)
  | .map fields => .object (fieldsToJson fields)
  | .timestamp t => .string t.text

/-- The documents of items. -/
def itemsToJson : List Value → List Json
  | [] => []
  | v :: rest => toJson v :: itemsToJson rest

/-- The members of fields. -/
def fieldsToJson : List (String × Value) → List (String × Json)
  | [] => []
  | (k, v) :: rest => (k, toJson v) :: fieldsToJson rest

end

mutual

/-- The value of a document. The last member of a name counts. -/
def ofJson : Json → Value
  | .null => .null
  | .bool b => .bool b
  | .number n => .number n.toDouble
  | .string s => .string s
  | .array items => .array (itemsOfJson items)
  | .object members => .map (Record.ofList (membersOfJson members))

/-- The values of items. -/
def itemsOfJson : List Json → List Value
  | [] => []
  | j :: rest => ofJson j :: itemsOfJson rest

/-- The values of members, in the order of the text. -/
def membersOfJson : List (String × Json) → List (String × Value)
  | [] => []
  | (k, j) :: rest => (k, ofJson j) :: membersOfJson rest

end

mutual

/-- The JSON text of a value, without blanks. -/
def encode : Value → String
  | .null => "null"
  | .bool true => "true"
  | .bool false => "false"
  | .number x => x.jsonText?.getD "null"
  | .string s => Json.stringText s
  | .array [] => "[]"
  | .array (v :: rest) => "[" ++ encode v ++ encodeRest rest ++ "]"
  | .map [] => "\x7b\x7d"
  | .map ((k, v) :: rest) =>
    "\x7b" ++ Json.stringText k ++ ":" ++ encode v ++ encodeFieldsRest rest ++ "\x7d"
  | .timestamp t => Json.stringText t.text

/-- Further items of an array, each behind a comma. -/
def encodeRest : List Value → String
  | [] => ""
  | v :: rest => "," ++ encode v ++ encodeRest rest

/-- Further fields of a map, each behind a comma. -/
def encodeFieldsRest : List (String × Value) → String
  | [] => ""
  | (k, v) :: rest =>
    "," ++ Json.stringText k ++ ":" ++ encode v ++ encodeFieldsRest rest

end

/-- How a value is shown. -/
def display (v : Value) : String :=
  match v with
  | .null => "null"
  | .bool b => if b then "true" else "false"
  | .number x => x.display
  | .string s => s
  | .timestamp t => t.text
  | .array items => (toJson (.array items)).text
  | .map fields => (toJson (.map fields)).text

end Value

end Formula
