import Formula.Builtin.Argument
import Formula.Language.Basic
import Formula.Value.Order

set_option autoImplicit false

/-!
# Functions on arrays

No function changes its arguments. Items are looked for with the equality that expressions see, so a
NaN is never found.
-/

namespace Formula.Builtin.Lists

/-- An array with further items at the end. -/
def push (args : List Value) : Except EvalError Value := do
  return .array ((← Argument.array "push" args 0) ++ (← Argument.rest "push" args 1))

/-- The last item, or null. -/
def pop (args : List Value) : Except EvalError Value := do
  return (← Argument.array "pop" args 0).getLast?.getD .null

/-- The first item, or null. -/
def shift (args : List Value) : Except EvalError Value := do
  return (← Argument.array "shift" args 0).head?.getD .null

/-- The number of items, or of those that are equal to one of the further arguments. -/
def count (args : List Value) : Looking Value := do
  let items ← Argument.array "count" args 0
  let needles ← Argument.rest "count" args 1
  if needles.isEmpty then return .ofNat items.length
  Looking.lookAtEach items
  return .ofNat (items.countP fun item => item.memberOf needles)

/-- Whether one of the further arguments is an item. -/
def has (args : List Value) : Except EvalError Value := do
  let items ← Argument.array "has" args 0
  return .bool ((← Argument.rest "has" args 1).any fun needle => needle.memberOf items)

/-- Whether all needles are items. The first one that is none ends the search. -/
def searchAll (items : List Value) : (needles : List Value) → Looking Bool
  | [] => return true
  | needle :: rest => do
    Looking.look
    if needle.memberOf items then searchAll items rest else return false

/-- Whether all further arguments are items. -/
def hasAll (args : List Value) : Looking Value := do
  let items ← Argument.array "hasAll" args 0
  return .bool (← searchAll items (← Argument.rest "hasAll" args 1))

/-- The position of the first item that is equal to a value, or `-1`. -/
def find (args : List Value) : Except EvalError Value := do
  let items ← Argument.array "find" args 0
  let needle ← Argument.any "find" args 1
  match items.findIdx? fun item => item.eq needle with
  | some i => return .ofNat i
  | none => return .ofInt (-1)

/-- The items in the total order of values, or in its reverse. Items that stand beside each other keep
their places. -/
def sort (args : List Value) : Looking Value := do
  let items ← Argument.array "sort" args 0
  let descending ← Argument.orElse Argument.bool false "sort" args 1
  Looking.look
  let sorted := items.mergeSort Value.totalLe
  return .array (if descending then sorted.reverse else sorted)

/-- The place in a list that a position means. Negative positions count from the end, and what lies
outside is drawn in. -/
def place (length : Nat) (i : Int) : Nat :=
  if i < 0 then ((length : Int) + i).toNat else Nat.min i.toNat length

/-- The items from one position on, up to another if it is given. -/
def slice (args : List Value) : Except EvalError Value := do
  let items ← Argument.array "slice" args 0
  let start := place items.length (← Argument.integer "slice" args 1)
  let stop := place items.length (← Argument.orElse Argument.integer items.length "slice" args 2)
  return .array ((items.take stop).drop start)

/-- The items of a value that is put into an array: those of an array, or the value itself. -/
def flattened (v : Value) : List Value :=
  match v with
  | .array items => items
  | v => [v]

/-- The items, those that are arrays being replaced by their items. -/
def flatten (args : List Value) : Looking Value := do
  let items ← Argument.array "flatten" args 0
  Looking.lookAtEach items
  return .array (items.flatMap flattened)

/-- The items that are equal to none of the earlier items that are kept, which are given. -/
def firsts (kept : List Value) : List Value → List Value
  | [] => []
  | v :: rest =>
    if kept.any fun w => w.eq v then firsts kept rest else v :: firsts (v :: kept) rest

/-- The items that are equal to no earlier item. -/
def unique (args : List Value) : Looking Value := do
  let items ← Argument.array "unique" args 0
  Looking.lookAtEach items
  return .array (firsts [] items)

/-- The functions on arrays. -/
def library : Library where
  category := "array"
  definitions := [
    .plain "push" (.range 2 none) push,
    .plain "pop" (.fixed 1) pop,
    .plain "shift" (.fixed 1) shift,
    .watching "count" (.range 1 none) count,
    .plain "has" (.range 2 none) has,
    .watching "hasAll" (.range 2 none) hasAll,
    .plain "find" (.fixed 2) find,
    .watching "sort" (.range 1 (some 2)) sort,
    .plain "slice" (.range 2 (some 3)) slice,
    .watching "flatten" (.fixed 1) flatten,
    .watching "unique" (.fixed 1) unique]

end Formula.Builtin.Lists
