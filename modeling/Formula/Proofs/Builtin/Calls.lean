import Formula.Builtin.Basic
import Formula.Proofs.Builtin.Looks
import Formula.Proofs.Language.Names
import Mathlib.Data.List.Forall2

set_option autoImplicit false

/-!
# Calls of the functions that come with the language

A function that comes with the language sees its arguments, and at most of the context whether it is
done at each of its looks. So while the context is live, what it gives depends on its arguments alone.

## Main definitions

* `Formula.Builtin.Gives` — what a name gives for arguments, wherever the context is live.

## Main results

* `Formula.Builtin.gives_plain`, `Formula.Builtin.gives_watching` — it is what the function is defined
  to give.
* `Formula.Builtin.Gives.unique`, `Formula.Builtin.Gives.result_iff` — there is no other result.
-/

namespace Formula.Builtin

variable {name : String} {arity : Arity} {args : List Value} {r r' : Except EvalError Value}

/-- A name of the language stands for a function that, called for the arguments, gives the result and
cancels nothing, wherever the context is live and whatever variables stand for. -/
def Gives (name : String) (args : List Value) (r : Except EvalError Value) : Prop :=
  ∃ d, (Language.builtin []).resolve name = some d ∧
    ∀ (s : Surroundings) (state : State), s.Live state →
      ∃ later, state.Later later ∧ (d.call s args).run state = (r, later)

/-- What a name stands for in the libraries that come with the language. -/
lemma resolve_builtin (name : String) :
    (Language.builtin []).resolve name = libraries.reverse.findSome? (·.find? name) := by
  rw [Language.builtin, List.append_nil, Language.resolve_ofLibraries]

/-- A function of the language gives what its body gives. -/
lemma gives_of_run {d : Definition} (h : libraries.reverse.findSome? (·.find? name) = some d)
    (hargs : d.arity.accepts args.length = true)
    (hbody : ∀ (s : Surroundings) (state : State), s.Live state →
      ∃ later, state.Later later ∧ (d.body s args).run state = (r, later)) : Gives name args r := by
  refine ⟨d, (resolve_builtin name).trans h, fun s state hlive => ?_⟩
  rw [Definition.call, if_pos hargs]
  exact hbody s state hlive

/-- A function that does not look at the context, which may go by several names. -/
lemma gives_of_body {d : Definition} {f : List Value → Except EvalError Value}
    (h : libraries.reverse.findSome? (·.find? name) = some d)
    (hbody : d.body = fun _ args => .ofExcept (f args))
    (hargs : d.arity.accepts args.length = true) (hresult : f args = r) : Gives name args r := by
  refine gives_of_run h hargs fun s state _ => ⟨state, .refl state, ?_⟩
  rw [hbody, ← hresult]
  exact Evaluation.run_ofExcept _ _

/-- A function of its arguments gives what it is defined to give. -/
lemma gives_plain {f : List Value → Except EvalError Value}
    (h : libraries.reverse.findSome? (·.find? name) = some (.plain name arity f))
    (hargs : arity.accepts args.length = true) (hresult : f args = r) : Gives name args r :=
  gives_of_body h rfl hargs hresult

/-- A function that looks at the context gives what it comes to when no look ends it. -/
lemma gives_watching {f : List Value → Looking Value}
    (h : libraries.reverse.findSome? (·.find? name) = some (.watching name arity f))
    (hargs : arity.accepts args.length = true) (hresult : (f args).result = r) :
    Gives name args r := by
  refine gives_of_run h hargs fun s state hlive => ?_
  rw [← hresult]
  exact (f args).run_evaluation hlive

/-- Functions with no greatest number of arguments, which want at most two, accept a first argument with
others behind it. -/
lemma accepts_cons {least : Nat} (v : Value) (h : args ≠ []) (hleast : least ≤ 2) :
    (Arity.range least none).accepts (v :: args).length = true := by
  have hpos : 0 < args.length := List.length_pos_iff.mpr h
  have hcount : least ≤ (v :: args).length := by
    rw [List.length_cons]
    omega
  simpa [Arity.accepts] using hcount

/-- A list is read if each of its items is. -/
lemma mapM_eq_ok_iff {α β : Type} {f : α → Except EvalError β} {items : List α} {results : List β} :
    items.mapM f = .ok results ↔ List.Forall₂ (fun a b => f a = .ok b) items results := by
  induction items generalizing results with
  | nil => cases results <;> simp [pure, Except.pure]
  | cons a rest ih =>
    rw [List.mapM_cons, List.forall₂_cons_left_iff]
    cases ha : f a with
    | error e => simp [bind, Except.bind]
    | ok b =>
      cases hrest : rest.mapM f with
      | error e => simp [bind, Except.bind, ← ih, hrest]
      | ok bs => simp [bind, Except.bind, pure, Except.pure, ← ih, hrest, eq_comm]

/-- A name gives one result for the arguments. -/
lemma Gives.unique (h : Gives name args r) (h' : Gives name args r') : r = r' := by
  obtain ⟨d, hd, hcall⟩ := h
  obtain ⟨d', hd', hcall'⟩ := h'
  obtain rfl : d = d' := Option.some.inj (hd.symm.trans hd')
  let s : Surroundings := ⟨⟨0, none⟩, fun _ => 0, ⟨fun _ => none, fun _ _ => false⟩, fun _ => none⟩
  have hlive : s.Live {} := fun _ _ => rfl
  obtain ⟨last, -, hrun⟩ := hcall s {} hlive
  obtain ⟨last', -, hrun'⟩ := hcall' s {} hlive
  exact congrArg Prod.fst (hrun.symm.trans hrun')

/-- The result that a name gives is the only one. -/
lemma Gives.result_iff (h : Gives name args r) : Gives name args r' ↔ r = r' := by
  constructor
  · exact h.unique
  · rintro rfl
    exact h

/-- A question is answered with yes if that is its answer. -/
lemma gives_true_iff {b : Bool} (h : Gives name args (.ok (.bool b))) :
    Gives name args (.ok (.bool true)) ↔ b = true := by
  constructor
  · intro htrue
    exact Value.bool.inj (Except.ok.inj (h.unique htrue))
  · rintro rfl
    exact h

end Formula.Builtin
