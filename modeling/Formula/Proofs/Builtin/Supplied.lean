import Formula.Proofs.Builtin.Failures

set_option autoImplicit false

/-!
# No argument is missing

The arity of a function and the positions at which its body reads are written in different places. Here
they are held against each other: a body that is run has an argument at every position at which it
reads, in all functions that come with the language.

## Main results

* `Formula.Argument.any_eq_missing_iff`, `Formula.Argument.rest_eq_missing_iff` — readers miss an argument
  exactly behind the end of the arguments.
* `Formula.Builtin.call_supplied` — calls of functions that come with the language miss none.
-/

namespace Formula

variable {name : String} {args : List Value} {i : Nat}

/-! ## Readers -/

namespace Argument

/-- The readers of one kind of argument all read it so. -/
lemma any_eq_missing_iff :
    any name args i = .error (.function name (.missingArgument i)) ↔ args.length ≤ i := by
  unfold any
  rw [← List.getElem?_eq_none_iff]
  split
  · next v hv => simp [hv]
  · next hnone => simp [hnone]

/-- The arguments from one on are missing exactly if there are fewer. -/
lemma rest_eq_missing_iff :
    rest name args i = .error (.function name (.missingArgument args.length)) ↔ args.length < i := by
  unfold rest
  split
  · next hle => simpa using hle
  · next hlt => simpa using hlt

end Argument

/-! ## Calls -/

namespace Definition

variable {d : Definition} {s : Surroundings} {state : State}

/-- A call with a number of arguments that is not accepted fails at once. -/
lemma run_call_of_refused (h : d.arity.accepts args.length = false) :
    (d.call s args).run state =
      (.error (.function d.name (.wrongCount d.arity args.length)), state) := by
  rw [call, if_neg (by simp [h])]
  rfl

/-- A call with an accepted number of arguments runs the body. -/
lemma call_of_accepted (h : d.arity.accepts args.length = true) : d.call s args = d.body s args :=
  if_pos h

/-- Where the number of arguments is accepted, a careful function neither complains of it nor misses an
argument. -/
lemma Careful.own (hd : d.Careful) (h : d.arity.accepts args.length = true) :
    FailsOnly (EvalError.Own False) ((d.call s args).run state).1 := by
  rw [call_of_accepted h]
  have hown := hd s args state
  simpa only [h, not_true_eq_false] using hown

end Definition

/-- **The functions that come with the language miss no argument.** One of them is called for a list of
arguments.

1. A number of arguments that its arity refuses is all that the call complains of, and nothing is done.
2. Otherwise the call is a run of the body.
3. The number of arguments is complained of in no other way and in no other place.
4. No failure says that an argument is missing.

**Proof sketch.** Step by step through the bodies, every position that is read is below the least number of
arguments that the arity accepts, or it is read only where there is an argument. -/
theorem Builtin.call_supplied {l : Library} (hl : l ∈ libraries) {d : Definition}
    (hd : d ∈ l.definitions) (s : Surroundings) (args : List Value) (state : State) :
    (d.arity.accepts args.length = false →
      (d.call s args).run state =
        (.error (.function d.name (.wrongCount d.arity args.length)), state)) ∧
    (d.arity.accepts args.length = true → (d.call s args).run state = (d.body s args).run state) ∧
    (∀ name arity n,
      ((d.call s args).run state).1 = .error (.function name (.wrongCount arity n)) ↔
        d.arity.accepts args.length = false ∧
          name = d.name ∧ arity = d.arity ∧ n = args.length) ∧
    ∀ name i, ((d.call s args).run state).1 ≠ .error (.function name (.missingArgument i)) := by
  have hcareful := careful l hl d hd
  refine ⟨Definition.run_call_of_refused, fun h => by rw [Definition.call_of_accepted h], ?_, ?_⟩
  · intro name arity n
    cases haccepts : d.arity.accepts args.length with
    | false =>
      rw [Definition.run_call_of_refused haccepts]
      simp [eq_comm]
    | true =>
      refine iff_of_false (fun h => ?_) (by simp)
      exact hcareful.own haccepts _ h
  · intro name i h
    cases haccepts : d.arity.accepts args.length with
    | false =>
      rw [Definition.run_call_of_refused haccepts] at h
      cases h
    | true => exact hcareful.own haccepts _ h

/-- The body of `set` would miss its third argument if two arguments came to it, so they do not. -/
theorem Builtin.call_supplied_set :
    ∃ d ∈ Maps.library.definitions, d.name = "set" ∧ ∀ (s : Surroundings) (state : State),
      ((d.body s [.map [], .string "k"]).run state).1 = .error (.function "set" (.missingArgument 2)) ∧
      (d.call s [.map [], .string "k"]).run state =
        (.error (.function "set" (.wrongCount (.fixed 3) 2)), state) ∧
      ∀ name i, ((d.call s [.map [], .string "k", .null]).run state).1 ≠
        .error (.function name (.missingArgument i)) := by
  let d : Definition := .plain "set" (.fixed 3) Maps.set
  have hl : Maps.library ∈ libraries := by simp [libraries]
  have hd : d ∈ Maps.library.definitions := by simp [Maps.library, d]
  refine ⟨d, hd, rfl, fun s state => ⟨rfl, ?_, ?_⟩⟩
  · exact (call_supplied hl hd s _ state).1 rfl
  · exact (call_supplied hl hd s _ state).2.2.2

end Formula
