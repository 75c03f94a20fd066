set_option autoImplicit false

/-!
# Records

A record maps names to entries. It is kept as a list of fields in strictly increasing order of
names, so two records with the same fields are the same list. Names are compared by code points,
which is also the order of their bytes.

## Main definitions

* `Formula.Record` — the list of fields.
* `Formula.Record.Ordered` — names strictly increase.
* `Formula.Record.find?`, `Formula.Record.insert`, `Formula.Record.erase`, `Formula.Record.union`,
  `Formula.Record.ofList` — the operations, each of which keeps the order.
-/

namespace Formula

universe u v

/-- Fields in increasing order of names. -/
abbrev Record (α : Type u) := List (String × α)

namespace Record

variable {α : Type u} {β : Type v}

/-- The names strictly increase. -/
def Ordered (r : Record α) : Prop :=
  r.Pairwise fun a b => a.1 < b.1

/-- The entry of a name. -/
def find? (r : Record α) (name : String) : Option α :=
  match r with
  | [] => none
  | (k, a) :: rest => if k = name then some a else find? rest name

/-- Whether a name has an entry. -/
def contains (r : Record α) (name : String) : Bool :=
  (r.find? name).isSome

/-- The record with an entry for a name, in place of an earlier one. -/
def insert (r : Record α) (name : String) (a : α) : Record α :=
  match r with
  | [] => [(name, a)]
  | (k, b) :: rest =>
    if name < k then (name, a) :: (k, b) :: rest
    else if name = k then (name, a) :: rest
    else (k, b) :: insert rest name a

/-- The record without an entry for a name. -/
def erase (r : Record α) (name : String) : Record α :=
  r.filter fun field => field.1 ≠ name

/-- The fields of both records; where both have a name, the entry of the second. -/
def union (r s : Record α) : Record α :=
  s.foldl (fun acc field => insert acc field.1 field.2) r

/-- The record with the given entries; the last one of a name counts. -/
def ofList (fields : List (String × α)) : Record α :=
  union [] fields

/-- The names, in order. -/
def keys (r : Record α) : List String :=
  r.map Prod.fst

/-- The entries, in the order of their names. -/
def values (r : Record α) : List α :=
  r.map Prod.snd

end Record

end Formula
