import Formula.Value.Basic
import Mathlib.Tactic.Lemma

set_option autoImplicit false

/-!
# Values by their parts

## Main definitions

* `Formula.Value.parts` — a value and all values within it.
* `Formula.Value.depth` — how deep arrays and maps are nested.

## Main results

* `Formula.Value.induction` — what holds of an array or a map whenever it holds of its entries, and of
  all other values, holds of all values.
-/

namespace Formula.Value

mutual

/-- The value and all values within it, however deep. -/
def parts : Value → List Value
  | .array items => .array items :: partsAll items
  | .map fields => .map fields :: partsFields fields
  | .null => [.null]
  | .bool b => [.bool b]
  | .number x => [.number x]
  | .string s => [.string s]
  | .timestamp t => [.timestamp t]

/-- The parts of items. -/
def partsAll : List Value → List Value
  | [] => []
  | v :: rest => v.parts ++ partsAll rest

/-- The parts of the entries of fields. -/
def partsFields : List (String × Value) → List Value
  | [] => []
  | (_, v) :: rest => v.parts ++ partsFields rest

end

variable {v : Value} {items : List Value} {fields : List (String × Value)}

/-- A part of items is a part of one of them. -/
lemma mem_partsAll : v ∈ partsAll items ↔ ∃ item ∈ items, v ∈ item.parts := by
  induction items with
  | nil => simp [partsAll]
  | cons item rest ih => simp [partsAll, ih]

/-- A part of fields is a part of one of their entries. -/
lemma mem_partsFields : v ∈ partsFields fields ↔ ∃ field ∈ fields, v ∈ field.2.parts := by
  induction fields with
  | nil => simp [partsFields]
  | cons field rest ih => simp [partsFields, ih]

/-- The parts of an item are parts of the array. -/
lemma mem_parts_of_item {w : Value} (hv : v ∈ items) (h : w ∈ v.parts) : w ∈ (array items).parts :=
  List.mem_cons_of_mem _ (mem_partsAll.mpr ⟨v, hv, h⟩)

/-- The parts of an entry are parts of the map. -/
lemma mem_parts_of_entry {field : String × Value} (hfield : field ∈ fields) (h : v ∈ field.2.parts) :
    v ∈ (map fields).parts :=
  List.mem_cons_of_mem _ (mem_partsFields.mpr ⟨field, hfield, h⟩)

/-- Items are well formed if each of them is. -/
lemma allWellFormed_iff : AllWellFormed items ↔ ∀ v ∈ items, v.WellFormed := by
  induction items with
  | nil => simp [AllWellFormed]
  | cons item rest ih => simp [AllWellFormed, ih]

/-- Fields are well formed if the entry of each of them is. -/
lemma fieldsWellFormed_iff : FieldsWellFormed fields ↔ ∀ field ∈ fields, field.2.WellFormed := by
  induction fields with
  | nil => simp [FieldsWellFormed]
  | cons field rest ih => simp [FieldsWellFormed, ih]

mutual

/-- The number of arrays and maps that lie within each other, the value among them. -/
def depth : Value → Nat
  | .array items => depthAll items + 1
  | .map fields => depthFields fields + 1
  | .null | .bool _ | .number _ | .string _ | .timestamp _ => 0

/-- The depth of the deepest item. -/
def depthAll : List Value → Nat
  | [] => 0
  | v :: rest => max v.depth (depthAll rest)

/-- The depth of the deepest entry. -/
def depthFields : List (String × Value) → Nat
  | [] => 0
  | (_, v) :: rest => max v.depth (depthFields rest)

end

section Induction

variable {P : Value → Prop} (null : P .null) (bool : ∀ b, P (.bool b))
  (number : ∀ x, P (.number x)) (string : ∀ s, P (.string s))
  (array : ∀ items, (∀ v ∈ items, P v) → P (.array items))
  (map : ∀ fields : List (String × Value), (∀ field ∈ fields, P field.2) → P (.map fields))
  (timestamp : ∀ t, P (.timestamp t))

include null bool number string array map timestamp in
/-- What holds of an array or a map whenever it holds of its entries, and of all other values, holds of
all values.

**Proof sketch.** The recursor of values, with the same property for all items and for all entries. -/
@[elab_as_elim]
theorem induction (v : Value) : P v :=
  @Value.rec P (fun items => ∀ v ∈ items, P v) (fun fields => ∀ field ∈ fields, P field.2)
    (fun field => P field.2) null bool number string array map timestamp
    (fun _ hv => absurd hv List.not_mem_nil)
    (fun _ _ hv hrest => List.forall_mem_cons.mpr ⟨hv, hrest⟩)
    (fun _ hfield => absurd hfield List.not_mem_nil)
    (fun _ _ hfield hrest => List.forall_mem_cons.mpr ⟨hfield, hrest⟩)
    (fun _ _ hv => hv) v

end Induction

end Formula.Value
