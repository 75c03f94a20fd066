import Formula.Value.Basic

set_option autoImplicit false

/-!
# The total order of values

Sorting needs an order of all values: first by kind, then within a kind. Numbers are ordered by their
bit patterns, so that both zeros and all NaNs have a place.

## Main definitions

* `Formula.Value.totalCompare` — the order.
-/

namespace Formula

namespace Value

/-- The place of a kind among the kinds. -/
def rank (v : Value) : Nat :=
  match v with
  | .null => 0
  | .bool _ => 1
  | .number _ => 2
  | .string _ => 3
  | .timestamp _ => 4
  | .array _ => 5
  | .map _ => 6

mutual

/-- The total order. Arrays and maps are compared entry by entry, and then by length; of two map
entries first the keys. -/
def totalCompare : Value → Value → Ordering
  | .number x, .number y => x.totalCompare y
  | .string s, .string t => compare s t
  | .timestamp t, .timestamp u => t.compare u
  | .bool a, .bool b => compare a b
  | .array items, .array others => totalCompareItems items others
  | .map fields, .map others => totalCompareFields fields others
  | v, w => compare v.rank w.rank

/-- The order of arrays. -/
def totalCompareItems : List Value → List Value → Ordering
  | [], [] => .eq
  | [], _ :: _ => .lt
  | _ :: _, [] => .gt
  | v :: rest, w :: others => (totalCompare v w).then (totalCompareItems rest others)

/-- The order of maps. -/
def totalCompareFields : List (String × Value) → List (String × Value) → Ordering
  | [], [] => .eq
  | [], _ :: _ => .lt
  | _ :: _, [] => .gt
  | (k, v) :: rest, (l, w) :: others =>
    ((compare k l).then (totalCompare v w)).then (totalCompareFields rest others)

end

/-- Whether a value stands before another or beside it. -/
def totalLe (v w : Value) : Bool :=
  (totalCompare v w).isLE

end Value

end Formula
