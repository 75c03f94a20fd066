import Formula.Json.Reading

set_option autoImplicit false

/-!
# Options

## Main definitions

* `Formula.Options` — the bound on nesting.
* `Formula.Options.ofJson?`, `Formula.Options.toJson` — options as documents.
-/

namespace Formula

/-- What a parser can be told. -/
structure Options where
  /-- The greatest depth of nesting. -/
  maxDepth : Nat := 128
deriving DecidableEq

namespace Options

/-- The name of the bound in documents. -/
def maxDepthName : String := "maxDepth"

/-- A bound: an integer that 64 bits hold without a sign. -/
def bound? (j : Json) : Option Nat :=
  match j with
  | .number (.int i) => if 0 ≤ i ∧ i < 0x10000000000000000 then some i.toNat else none
  | _ => none

/-- Options from a document: an object that has the bound at most once, members of other names being
ignored, or an array of at most the bound. What is missing is left as usual. -/
def ofJson? (j : Json) : Option Options :=
  match j with
  | .object members =>
    match members.filter fun m => m.1 = maxDepthName with
    | [] => some {}
    | [(_, value)] => (bound? value).map Options.mk
    | _ => none
  | .array [] => some {}
  | .array [value] => (bound? value).map Options.mk
  | _ => none

/-- Options from the text of a document. -/
def ofText? (s : String) : Option Options := do
  ofJson? (← Json.ofText? s)

/-- The document of options. -/
def toJson (o : Options) : Json :=
  .object [(maxDepthName, .number (.int o.maxDepth))]

end Options

end Formula
