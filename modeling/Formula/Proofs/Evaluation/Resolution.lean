import Formula.Builtin.General
import Formula.Pattern.Meaning
import Formula.Proofs.Evaluation.Relation
import Mathlib.Control.Monad.Basic

set_option autoImplicit false

/-!
# Paths into variables

A variable with accesses behind it need not be copied on the way: each access goes from a place
within the value of the variable to one farther in, until a character of a text is asked for, which
has no place. A path that begins at any other expression leads to values of its own. Both kinds of
paths lead to the same values, so a variable may be replaced by its value.

## Main definitions

* `Formula.Location` — a place within the value of a variable.
* `Formula.Found` — a value, and where it is kept.
* `Formula.Expr.resolve` — what an expression leads to, without copies on the way.
* `Formula.Found.detach` — a copy of what is kept in a variable.

## Main results

* `Formula.Expr.eval_eq_resolve` — evaluation leads to the values that paths lead to.
* `Formula.Expr.kept_of_resolve` — a path leads to where its value is kept.
* `Formula.Expr.eval_withVariable` — a variable may be replaced by its value.
-/

namespace Formula

/-! ## Places within values -/

/-- A step from a value to one of its entries. -/
inductive Step where
  | key (name : String)
  | item (i : Nat)
deriving DecidableEq

/-- A variable, and steps from its value on. -/
structure Location where
  root : String
  steps : List Step := []
deriving DecidableEq

namespace Value

/-- The entry that a step leads to. -/
def entry? (v : Value) (step : Step) : Option Value :=
  match v, step with
  | .map fields, .key name => Record.find? fields name
  | .array items, .item i => items[i]?
  | _, _ => none

/-- The step to the entry at a computed position. There is none to a character of a text. -/
def stepTo? (v position : Value) : Option Step :=
  match v, position with
  | .map _, .string name => some (.key name)
  | .array _, position =>
    match position.position with
    | .ok i => some (.item i.toNat)
    | .error _ => none
  | _, _ => none

/-- A member that can be read is the entry under its key. -/
lemma entry?_of_member {v w : Value} {key : String} (h : v.member key = .ok w) :
    v.entry? (.key key) = some w := by
  cases v with
  | map fields =>
    unfold member at h
    unfold entry?
    cases hfind : Record.find? fields key with
    | none => simp [hfind] at h
    | some entry => simpa [hfind] using h
  | _ => cases h

/-- An element that can be read is the entry that the step to it leads to.

**Proof sketch.** For a map the step is the key, and its entry is the member of this name. For an array
it is the position as a number, which is not negative, because there is no item at a negative one. -/
lemma entry?_of_element {v position w : Value} {step : Step} (h : v.element position = .ok w)
    (hstep : v.stepTo? position = some step) : v.entry? step = some w := by
  cases v with
  | map fields =>
    cases position with
    | string key =>
      cases hstep
      exact entry?_of_member h
    | _ => cases h
  | array items =>
    unfold stepTo? at hstep
    change (position.position >>= entryAt items) = .ok w at h
    cases hposition : position.position with
    | error e => simp [hposition] at hstep
    | ok i =>
      simp only [hposition, Option.some.injEq] at hstep
      subst hstep
      rw [hposition] at h
      change entryAt items i = .ok w at h
      unfold entryAt at h
      unfold entry?
      by_cases hi : i < 0
      · simp [hi] at h
      · cases hitem : items[i.toNat]? with
        | none => simp [hi, hitem] at h
        | some item => simpa [hi, hitem] using h
  | _ => cases hstep

end Value

namespace Location

/-- The place one step farther in. -/
def extend (l : Location) (step : Step) : Location :=
  { l with steps := l.steps ++ [step] }

/-- The value at a place, if the steps lead to one. -/
def read? (scope : String → Option Value) (l : Location) : Option Value := do
  l.steps.foldlM Value.entry? (← scope l.root)

/-- The value one step farther in is an entry of the value there. -/
lemma read?_extend (scope : String → Option Value) (l : Location) (step : Step) :
    (l.extend step).read? scope = (l.read? scope).bind fun v => v.entry? step := by
  unfold read? extend
  cases scope l.root with
  | none => rfl
  | some v => simp [List.foldlM_append]

end Location

/-! ## What paths lead to -/

/-- A value, and the place where it is kept if it is no copy. -/
structure Found where
  value : Value
  location : Option Location := none

namespace Found

/-- The value is the one at the place where it is said to be kept. -/
def Kept (scope : String → Option Value) (f : Found) : Prop :=
  ∀ l, f.location = some l → l.read? scope = some f.value

/-- An entry, and the place a step farther in if there is such a step. -/
def entry (f : Found) (v : Except EvalError Value) (step : Option Step) : Except EvalError Found := do
  return ⟨← v, f.location.bind fun l => step.map l.extend⟩

/-- The entry of a map, which is kept where the map is. -/
def member (f : Found) (key : String) : Except EvalError Found :=
  f.entry (f.value.member key) (some (.key key))

/-- The entry at a computed position, which is kept where the value is unless it is a character. -/
def element (f : Found) (position : Value) : Except EvalError Found :=
  f.entry (f.value.element position) (f.value.stepTo? position)

/-- A copy of the value if it is kept in a variable with a name. -/
def detach (name : String) (f : Found) : Found :=
  match f.location with
  | some l => if l.root = name then ⟨f.value, none⟩ else f
  | none => f

/-- An entry of what is kept in a variable is kept there too.

**Proof sketch.** If both the place and the step are known, the entry is read at the place first and
then one step farther in. -/
lemma Kept.entry {scope : String → Option Value} {f g : Found} {v : Except EvalError Value}
    {step : Option Step} (hf : f.Kept scope)
    (hentry : ∀ w step', v = .ok w → step = some step' → f.value.entry? step' = some w)
    (hg : f.entry v step = .ok g) : g.Kept scope := by
  cases v with
  | error e => cases hg
  | ok w =>
    cases hg
    intro l hl
    obtain ⟨l', hl', hmap⟩ := Option.bind_eq_some_iff.mp hl
    obtain ⟨step', hstep, rfl⟩ := Option.map_eq_some_iff.mp hmap
    rw [Location.read?_extend, hf l' hl']
    exact hentry w step' rfl hstep

/-- A member of what is kept in a variable is kept there too. -/
lemma Kept.member {scope : String → Option Value} {f g : Found} {key : String} (hf : f.Kept scope)
    (hg : f.member key = .ok g) : g.Kept scope := by
  refine hf.entry (fun w step' hw hstep => ?_) hg
  cases hstep
  exact Value.entry?_of_member hw

/-- An element of what is kept in a variable is kept there too, unless no step leads to it. -/
lemma Kept.element {scope : String → Option Value} {f g : Found} {position : Value}
    (hf : f.Kept scope) (hg : f.element position = .ok g) : g.Kept scope :=
  hf.entry (fun _ _ hw hstep => Value.entry?_of_element hw hstep) hg

/-! ### Copies -/

/-- A copy has the same value. -/
@[simp] lemma value_detach (name : String) (f : Found) : (f.detach name).value = f.value := by
  unfold detach
  split
  · split <;> rfl
  · rfl

/-- The value of the entry does not depend on where it is kept. -/
lemma value_entry (f : Found) (v : Except EvalError Value) (step : Option Step) :
    value <$> f.entry v step = v := by
  cases v <;> rfl

/-- An entry of a copy is a copy of the entry. -/
lemma entry_detach (name : String) (f : Found) (v : Except EvalError Value) (step : Option Step) :
    (f.detach name).entry v step = detach name <$> f.entry v step := by
  cases v with
  | error e => rfl
  | ok w =>
    change Except.ok (Found.mk w _) = .ok (detach name ⟨w, _⟩)
    obtain ⟨u, _ | l⟩ := f
    · rfl
    · by_cases hl : l.root = name <;> cases step <;> simp [detach, hl, Location.extend]

/-- A member of a copy is a copy of the member. -/
lemma member_detach (name : String) (f : Found) (key : String) :
    (f.detach name).member key = detach name <$> f.member key := by
  unfold member
  rw [value_detach, entry_detach]

/-- An element of a copy is a copy of the element. -/
lemma element_detach (name : String) (f : Found) (position : Value) :
    (f.detach name).element position = detach name <$> f.element position := by
  unfold element
  rw [value_detach, entry_detach]

end Found

namespace Expr

/-- What an expression leads to. Only accesses behind a variable lead to a place. -/
def resolve (s : Surroundings) : Expr → Evaluation Found
  | .var name => do return ⟨← .ofExcept (s.lookup name), some ⟨name, []⟩⟩
  | .member target key => do .ofExcept ((← resolve s target).member key)
  | .index target position => do
    let f ← resolve s target
    let p ← eval s position
    .ofExcept (f.element p)
  | e => do return ⟨← eval s e, none⟩

/-- Whether an expression is a variable or an access. -/
def isPath (e : Expr) : Bool :=
  match e with
  | .var _ | .member _ _ | .index _ _ => true
  | _ => false

/-- What is no path leads to a value of its own. -/
lemma resolve_of_not_isPath (s : Surroundings) {e : Expr} (h : e.isPath = false) :
    e.resolve s = (fun v => ⟨v, none⟩) <$> e.eval s := by
  cases e with
  | var name => cases h
  | member target key => cases h
  | index target position => cases h
  | _ => rfl

/-- **Evaluation leads to the values that paths lead to.**

**Proof sketch.** Recursion along the path. Each access takes its entry from the same value. -/
theorem eval_eq_resolve (s : Surroundings) (e : Expr) :
    e.eval s = Found.value <$> e.resolve s := by
  cases e with
  | var name => simp [eval, resolve]
  | member target key =>
    simp [eval, resolve, eval_eq_resolve s target, Evaluation.map_ofExcept, Found.member,
      Found.value_entry]
  | index target position =>
    simp [eval, resolve, eval_eq_resolve s target, Evaluation.map_ofExcept, Found.element,
      Found.value_entry]
  | _ => simp [resolve]

/-- **A path leads to where its value is kept.**

**Proof sketch.** Recursion along the path. A variable is kept under its name, each access is a step
from what its target leads to, and everything else is kept nowhere. -/
theorem kept_of_resolve (s : Surroundings) (e : Expr) {state final : State} {f : Found}
    (h : (e.resolve s).run state = (.ok f, final)) : f.Kept s.scope := by
  cases e with
  | var name =>
    unfold resolve at h
    obtain ⟨v, state', hlookup, hf⟩ := Evaluation.exists_of_run_bind h
    cases hf
    rw [Evaluation.run_ofExcept] at hlookup
    unfold Surroundings.lookup at hlookup
    intro l hl
    cases hl
    cases hscope : s.scope name with
    | none =>
      rw [hscope] at hlookup
      cases hlookup
    | some w =>
      rw [hscope] at hlookup
      cases hlookup
      simp [Location.read?, hscope]
  | member target key =>
    unfold resolve at h
    obtain ⟨g, state', hg, hf⟩ := Evaluation.exists_of_run_bind h
    rw [Evaluation.run_ofExcept] at hf
    exact (kept_of_resolve s target hg).member (congrArg Prod.fst hf)
  | index target position =>
    unfold resolve at h
    obtain ⟨g, state', hg, hrest⟩ := Evaluation.exists_of_run_bind h
    obtain ⟨p, state'', -, hf⟩ := Evaluation.exists_of_run_bind hrest
    rw [Evaluation.run_ofExcept] at hf
    exact (kept_of_resolve s target hg).element (congrArg Prod.fst hf)
  | _ =>
    -- Every other expression leads to a value of its own.
    obtain ⟨v, state', -, hf⟩ := Evaluation.exists_of_run_bind h
    cases hf
    exact fun l hl => nomatch hl

end Expr

/-! ## A value in place of a variable -/

/-- The surroundings with another value for a variable. -/
def Surroundings.withVariable (s : Surroundings) (name : String) (v : Value) : Surroundings :=
  { s with scope := fun other => if other = name then some v else s.scope other }

/-- A function whose body does not read variables. -/
def Definition.IgnoresScope (d : Definition) : Prop :=
  ∀ (s : Surroundings) (scope : String → Option Value), d.body { s with scope := scope } = d.body s

namespace Expr

variable {s : Surroundings} {name : String} {v : Value} {e : Expr}

/-- A variable may be replaced by its value where no function reads variables.

**Proof sketch.** Equality of evaluations is compatible with the evaluator, so only variables and calls
have to be looked at. A variable with this name is its value in both, and a function runs the same way
because it does not read variables. -/
lemma eval_instantiate (hcalls : ∀ f d args, .call f d args ∈ e.nodes → d.IgnoresScope) :
    e.eval (s.withVariable name v) = (e.instantiate name v).eval s := by
  have hequal : Evaluation.Compatible (· = ·) := ⟨fun _ => rfl, fun hm hk => by rw [hm, funext hk]⟩
  have hpatterns : (s.withVariable name v).patterns = s.patterns := rfl
  refine hequal.eval_substitute hpatterns e fun node hnode => ?_
  cases node with
  | var other =>
    unfold Related
    by_cases h : other = name
    · simp [h, eval, Surroundings.lookup, Surroundings.withVariable, Evaluation.ofExcept]
    · simp [h, eval, Surroundings.lookup, Surroundings.withVariable]
  | call f d args =>
    intro vs
    have hbody : d.body (s.withVariable name v) = d.body s := hcalls f d args hnode s _
    have hcall : d.call (s.withVariable name v) vs = d.call s vs := by
      unfold Definition.call
      rw [hbody]
    rw [hcall]
    rfl
  | _ => trivial

/-- What the expression leads to then is a copy of what was kept in the variable, and else the same.

**Proof sketch.** Recursion along the path. The variable itself leads to the place in one and to a copy
in the other, and an entry of a copy is a copy of the entry. -/
lemma resolve_instantiate (e : Expr) (hcalls : ∀ f d args, .call f d args ∈ e.nodes → d.IgnoresScope) :
    (e.instantiate name v).resolve s = Found.detach name <$> e.resolve (s.withVariable name v) := by
  have heval : e.eval (s.withVariable name v) = (e.instantiate name v).eval s :=
    eval_instantiate hcalls
  cases e with
  | var other =>
    by_cases h : other = name
    · simp [h, instantiate, substitute, resolve, eval, Surroundings.lookup,
        Surroundings.withVariable, Evaluation.ofExcept, Found.detach]
    · simp [h, instantiate, substitute, resolve, Surroundings.lookup, Surroundings.withVariable,
        Found.detach]
  | member target key =>
    have htarget := resolve_instantiate target fun f d args h => hcalls f d args (by simp [nodes, h])
    rw [instantiate] at htarget ⊢
    simp [substitute, resolve, htarget, Found.member_detach, Evaluation.map_ofExcept]
  | index target position =>
    have htarget := resolve_instantiate target fun f d args h => hcalls f d args (by simp [nodes, h])
    have hposition : position.eval (s.withVariable name v) = (position.instantiate name v).eval s :=
      eval_instantiate fun f d args h => hcalls f d args (by simp [nodes, h])
    rw [instantiate] at htarget hposition ⊢
    simp [substitute, resolve, htarget, hposition, Found.element_detach, Evaluation.map_ofExcept]
  | _ =>
    rw [resolve_of_not_isPath _ rfl, resolve_of_not_isPath _ rfl, ← heval]
    simp [Found.detach]

/-- **A variable may be replaced by its value.** If no function that an expression calls reads
variables, then its evaluation where a variable has some value is that of the expression with this
value in place of the variable, wherever it occurs.

The paths of the two lead to the same: what is kept in the variable there is a copy here.

**Proof sketch.** Evaluation only asks for the value of a variable, and a literal has the same. An
entry of a copy is a copy of the entry. -/
theorem eval_withVariable (s : Surroundings) (name : String) (v : Value) (e : Expr)
    (hcalls : ∀ f d args, .call f d args ∈ e.nodes → d.IgnoresScope) :
    e.eval (s.withVariable name v) = (e.instantiate name v).eval s ∧
    e.eval (s.withVariable name v) = Found.value <$> e.resolve (s.withVariable name v) ∧
    (e.instantiate name v).resolve s = Found.detach name <$> e.resolve (s.withVariable name v) :=
  ⟨eval_instantiate hcalls, eval_eq_resolve _ e, resolve_instantiate e hcalls⟩

/-- In `row.items[len(row)]` the item is kept in `row`, and a copy if `row` is replaced. -/
theorem eval_withVariable_row :
    ∃ e, Grammar.parse Builtin.General.library.find? (fun _ => none) 9 "row.items[len(row)]" = .ok e ∧
      let s : Surroundings := ⟨⟨0, none⟩, fun _ => 0, .standard, fun _ => none⟩
      let row : Value := .map [("items", .array [.string "a", .string "b"])]
      e.eval (s.withVariable "row" row) = (e.instantiate "row" row).eval s ∧
      (((e.resolve (s.withVariable "row" row)).run {}).1 =
        .ok ⟨.string "b", some ⟨"row", [.key "items", .item 1]⟩⟩) ∧
      ((((e.instantiate "row" row).resolve s).run {}).1 = .ok ⟨.string "b", none⟩) := by
  let len := (Definition.plain "len" (.fixed 1) Builtin.General.len).withAlias "length"
  let e : Expr := .index (.member (.var "row") "items") (.call "len" len [.var "row"])
  have ht : Lexeme.ofChars "row.items[len(row)]".toList = .ok ([⟨.identifier "row", 0, 3⟩,
      ⟨.symbol .dot, 3, 4⟩, ⟨.identifier "items", 4, 9⟩, ⟨.symbol .leftBracket, 9, 10⟩,
      ⟨.identifier "len", 10, 13⟩, ⟨.symbol .leftParen, 13, 14⟩, ⟨.identifier "row", 14, 17⟩,
      ⟨.symbol .rightParen, 17, 18⟩, ⟨.symbol .rightBracket, 18, 19⟩], 19) := by
    decide +kernel
  have hparse : Grammar.parse Builtin.General.library.find? (fun _ => none) 9 "row.items[len(row)]" =
      .ok e := by
    rw [Grammar.parse_eq ht]
    rfl
  have hcalls : ∀ f d args, .call f d args ∈ e.nodes → d.IgnoresScope := by
    intro f d args hnode
    obtain ⟨-, rfl, -⟩ : f = "len" ∧ d = len ∧ args = [.var "row"] := by
      simpa [e, nodes, nodesAll] using hnode
    exact fun _ _ => rfl
  obtain ⟨heval, -, hresolve⟩ := eval_withVariable ⟨⟨0, none⟩, fun _ => 0, .standard, fun _ => none⟩ "row"
    (.map [("items", .array [.string "a", .string "b"])]) e hcalls
  refine ⟨e, hparse, heval, rfl, ?_⟩
  rw [hresolve]
  rfl

end Expr

end Formula
