import Formula.Calendar.Timestamp
import Formula.Double.Basic
import Formula.Record

set_option autoImplicit false

/-!
# Values

What variables hold and what expressions evaluate to. All numbers are binary64 numbers.

## Main definitions

* `Formula.Value` — a value.
* `Formula.Value.WellFormed` — every map in a value has its keys in strictly increasing order, as all
  operations leave them.
* `Formula.Value.isEmpty` — which values count as false.
* `Formula.Value.eq` — the equality that expressions see.
-/

namespace Formula

/-- A value. The fields of a map are a `Formula.Record`. -/
inductive Value where
  | null
  | bool (b : Bool)
  | number (x : Double)
  | string (s : String)
  | array (items : List Value)
  | map (fields : List (String × Value))
  | timestamp (t : Timestamp)

instance : Inhabited Value :=
  ⟨.null⟩

namespace Value

mutual

/-- Every map has its keys in strictly increasing order, at any depth. -/
def WellFormed : Value → Prop
  | .array items => AllWellFormed items
  | .map fields => Record.Ordered fields ∧ FieldsWellFormed fields
  | .null | .bool _ | .number _ | .string _ | .timestamp _ => True

/-- All items are well formed. -/
def AllWellFormed : List Value → Prop
  | [] => True
  | v :: rest => WellFormed v ∧ AllWellFormed rest

/-- All entries are well formed. -/
def FieldsWellFormed : List (String × Value) → Prop
  | [] => True
  | (_, v) :: rest => WellFormed v ∧ FieldsWellFormed rest

end

/-- Null, false, both zeros, the empty text and arrays and maps without entries. NaN and timestamps
are not empty. -/
def isEmpty (v : Value) : Bool :=
  match v with
  | .null => true
  | .bool b => !b
  | .number x => x.isZero
  | .string s => s.isEmpty
  | .array items => items.isEmpty
  | .map fields => fields.isEmpty
  | .timestamp _ => false

/-- Whether a value is null. -/
def isNull (v : Value) : Bool :=
  match v with
  | .null => true
  | _ => false

/-- The name of the kind of a value. -/
def typeName (v : Value) : String :=
  match v with
  | .null => "null"
  | .bool _ => "boolean"
  | .number _ => "number"
  | .string _ => "string"
  | .array _ => "array"
  | .map _ => "map"
  | .timestamp _ => "timestamp"

mutual

/-- Equality of values: numbers numerically, timestamps by their instants, arrays and maps entry by
entry. A NaN equals nothing, and neither does a value that contains one. -/
def eq : Value → Value → Bool
  | .null, .null => true
  | .bool a, .bool b => a == b
  | .number x, .number y => x.eq y
  | .string s, .string t => s == t
  | .array items, .array others => eqItems items others
  | .map fields, .map others => eqFields fields others
  | .timestamp t, .timestamp u => t.eq u
  | _, _ => false

/-- Equality item by item. -/
def eqItems : List Value → List Value → Bool
  | [], [] => true
  | v :: rest, w :: others => eq v w && eqItems rest others
  | _, _ => false

/-- Equality field by field. -/
def eqFields : List (String × Value) → List (String × Value) → Bool
  | [], [] => true
  | (k, v) :: rest, (l, w) :: others => k == l && eq v w && eqFields rest others
  | _, _ => false

end

/-- Whether an item of the list is equal to a value. -/
def memberOf (v : Value) (items : List Value) : Bool :=
  items.any fun item => item.eq v

/-- A count as a value. -/
def ofNat (n : Nat) : Value :=
  .number (Double.ofNat n)

/-- An integer as a value. -/
def ofInt (i : Int) : Value :=
  .number (Double.ofInt i)

/-- Characters as a value. -/
def ofChars (cs : List Char) : Value :=
  .string (String.ofList cs)

end Value

end Formula
