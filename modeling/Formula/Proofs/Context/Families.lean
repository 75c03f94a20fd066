import Formula.Context
import Mathlib.Data.List.Basic

set_option autoImplicit false

/-!
# Families of contexts

Contexts grow as a forest: a context is a new root, or it is made from one that is there. All
contexts of a tree share one flag, and deadlines only get earlier on the way down.

The operations are told apart from what they leave behind: a history of operations says where every
context comes from, and from that alone it can be read off which contexts belong together and which
deadlines were asked for on the way to them.

## Main definitions

* `Formula.Contexts.Operation` — what can be done with contexts.
* `Formula.Contexts.after` — all contexts after a history of operations.
* `Formula.Contexts.Proper` — a history that speaks only of contexts that are there.
* `Formula.Contexts.Origin`, `Formula.Contexts.Descends` — where contexts come from, one step back
  and all the way to the root.

## Main results

* `Formula.Contexts.apply_cases` — all that an operation can do.
* `Formula.Contexts.Proper.recorded` — contexts are what their descent says.
* `Formula.Contexts.Proper.isSet_iff` — flags are set by cancellations only.
* `Formula.Contexts.family_and_deadline` — what flag, deadline and check of a context say.
-/

namespace Formula

/-! ## Flags and deadlines -/

namespace Flags

/-- A flag is set when it is being set or was set before.

**Proof sketch.** If it was set before, nothing changes. -/
lemma isSet_set {flags : Flags} {family other : Family} :
    (flags.set family).isSet other = true ↔ other = family ∨ flags.isSet other = true := by
  unfold set
  split
  · next hset =>
    constructor
    · exact Or.inr
    · rintro (rfl | h)
      · exact hset
      · exact h
  · simp [isSet]

end Flags

namespace Context

/-- A context made from this one, with a deadline if one is asked for. -/
def request (c : Context) (deadline : Option Moment) : Context :=
  match deadline with
  | none => c
  | some moment => c.withDeadline moment

/-- A deadline does not change the family. -/
@[simp] lemma family_request (c : Context) (deadline : Option Moment) :
    (c.request deadline).family = c.family := by
  cases deadline <;> rfl

/-- If a context ends at the least of some deadlines, then a context made from it ends at the least
of these and the one that is asked for.

**Proof sketch.** Without a request nothing changes. With one, the least deadline is the lesser of it
and the one before. -/
lemma deadline_request {c : Context} {requests : List Moment} (h : c.deadline = requests.min?)
    (deadline : Option Moment) :
    (c.request deadline).deadline = (deadline.toList ++ requests).min? := by
  cases deadline with
  | none => exact h
  | some moment =>
    simp only [request, withDeadline, h, Option.toList_some, List.singleton_append, List.min?_cons]
    cases requests.min? with
    | none => rfl
    | some d => simp [Nat.min_comm]

/-- A context never outlives the one it is made from. -/
lemma request_deadline_le {c : Context} {d : Moment} (h : c.deadline = some d)
    (deadline : Option Moment) : ∃ d' ≤ d, (c.request deadline).deadline = some d' := by
  cases deadline with
  | none => exact ⟨d, Nat.le_refl d, h⟩
  | some moment =>
    exact ⟨min d moment, Nat.min_le_left d moment, by simp [request, withDeadline, h]⟩

/-- A look at a context: first at the flag, then at the deadlines that were asked for.

**Proof sketch.** The deadline has passed if the least of the deadlines has, and that is so if any of
them has. -/
lemma check_eq {c : Context} {requests : List Moment} (h : c.deadline = requests.min?)
    (flags : Flags) (now : Moment) :
    c.check flags now =
      if c.isCancelled flags then .error .cancelled
      else if ∃ d ∈ requests, d ≤ now then .error .deadlineExceeded else .ok () := by
  unfold check
  rw [h]
  congr 1
  cases hmin : requests.min? with
  | none =>
    obtain rfl := List.min?_eq_none_iff.mp hmin
    simp
  | some d =>
    obtain ⟨hd, hle⟩ := List.min?_eq_some_iff.mp hmin
    have hiff : d ≤ now ↔ ∃ d' ∈ requests, d' ≤ now :=
      ⟨fun h => ⟨d, hd, h⟩, fun ⟨d', hd', h⟩ => Nat.le_trans (hle d' hd') h⟩
    simp only [hiff]

/-- A context that is done stays done as long as its flag is not taken back.

**Proof sketch.** If the flag is set, the context is cancelled. If it is not, it was not set before
either, so the deadline had passed then, and it has passed now. -/
lemma check_of_check {c : Context} {flags later : Flags} {now now' : Moment} (hnow : now ≤ now')
    (hflags : c.isCancelled flags = true → c.isCancelled later = true)
    (h : c.check flags now ≠ .ok ()) :
    c.check later now' =
      .error (if c.isCancelled later then .cancelled else .deadlineExceeded) := by
  unfold check at h ⊢
  split
  · rfl
  next hlater =>
    rw [if_neg fun hset => hlater (hflags hset)] at h
    split at h
    · next d _ =>
      have hd : d ≤ now := by
        by_contra hd
        exact h (if_neg hd)
      rw [if_pos (Nat.le_trans hd hnow)]
    · exact absurd rfl h

end Context

namespace Contexts

/-! ## Histories -/

/-- What can be done with contexts, which are numbered in the order they are made. -/
inductive Operation where
  | background
  | clone (parent : Nat)
  | withDeadline (parent : Nat) (moment : Moment)
  /-- A timeout that is asked for at the moment `now`. -/
  | withTimeout (parent : Nat) (now : Moment) (time : Nat)
  | cancel (i : Nat)

/-- The contexts after one more operation. -/
def apply (cs : Contexts) (op : Operation) : Contexts :=
  match op with
  | .background => cs.background
  | .clone parent => cs.derive parent id
  | .withDeadline parent moment => cs.derive parent (·.withDeadline moment)
  | .withTimeout parent now time => cs.derive parent (·.withTimeout now time)
  | .cancel i => cs.cancel i

/-- The contexts after a history of operations. -/
def after (history : List Operation) : Contexts :=
  history.foldl apply {}

/-- Where a context comes from. -/
inductive Origin where
  | background
  /-- It is made from another one, perhaps with a deadline that is asked for. -/
  | derived (parent : Nat) (request : Option Moment)
deriving DecidableEq

/-- The origin of the context that an operation makes, if it makes one. -/
def Operation.origin? (op : Operation) : Option Origin :=
  match op with
  | background => some .background
  | clone parent => some (.derived parent none)
  | withDeadline parent moment => some (.derived parent (some moment))
  | withTimeout parent now time => some (.derived parent (some (now + time)))
  | cancel _ => none

/-- The context that an operation speaks of, if it speaks of one. -/
def Operation.subject? (op : Operation) : Option Nat :=
  match op with
  | background => none
  | clone parent => some parent
  | withDeadline parent _ => some parent
  | withTimeout parent _ _ => some parent
  | cancel i => some i

/-- Where the contexts come from that a history makes. -/
def origins (history : List Operation) : List Origin :=
  history.filterMap Operation.origin?

/-- Every operation of a history speaks of a context that was made before it. -/
inductive Proper : List Operation → Prop
  | nil : Proper []
  | snoc {history : List Operation} {op : Operation} (h : Proper history)
      (hop : ∀ i, op.subject? = some i → i < (origins history).length) : Proper (history ++ [op])

/-- `Descends os root requests c`: the context `c` is the root `root` or was made from it, directly
or through others, and `requests` are the deadlines that were asked for on the way, the last one
first. -/
inductive Descends (os : List Origin) (root : Nat) : List Moment → Nat → Prop
  | root (h : os[root]? = some .background) : Descends os root [] root
  | derived {parent c : Nat} {request : Option Moment} {requests : List Moment}
      (h : os[c]? = some (.derived parent request)) (hp : Descends os root requests parent) :
      Descends os root (request.toList ++ requests) c

/-- The family of a root: the number of roots before it. -/
def familyOf (os : List Origin) (root : Nat) : Family :=
  (os.take root).count .background

/-! ## One operation -/

variable {cs : Contexts} {os : List Origin} {history : List Operation} {op : Operation}
  {root root' c c' : Nat} {requests requests' : List Moment}

/-- The last operation of a history is applied to what the others lead to. -/
lemma after_snoc (history : List Operation) (op : Operation) :
    after (history ++ [op]) = (after history).apply op := by
  simp [after]

/-- The last operation of a history adds the origin of what it makes. -/
lemma origins_snoc (history : List Operation) (op : Operation) :
    origins (history ++ [op]) = origins history ++ op.origin?.toList := by
  unfold origins
  rw [List.filterMap_append]
  cases h : op.origin? <;> simp [h]

/-- All that an operation can do.

**Proof sketch.** One case for each operation. A clone is made without a deadline, and a timeout asks
for a deadline. -/
lemma apply_cases (cs : Contexts) (op : Operation) :
    (op = .background ∧ op.origin? = some .background ∧ cs.apply op = cs.background) ∨
    (∃ parent request, op.subject? = some parent ∧ op.origin? = some (.derived parent request) ∧
      (∀ i, op ≠ .cancel i) ∧ cs.apply op = cs.derive parent (·.request request)) ∨
    ∃ i, op = .cancel i ∧ op.origin? = none ∧ cs.apply op = cs.cancel i := by
  cases op with
  | background => exact .inl ⟨rfl, rfl, rfl⟩
  | clone parent => exact .inr (.inl ⟨parent, none, rfl, rfl, nofun, rfl⟩)
  | withDeadline parent moment =>
    exact .inr (.inl ⟨parent, some moment, rfl, rfl, nofun, rfl⟩)
  | withTimeout parent now time =>
    exact .inr (.inl ⟨parent, some (now + time), rfl, rfl, nofun, rfl⟩)
  | cancel i => exact .inr (.inr ⟨i, rfl, rfl, rfl⟩)

/-- What was made stays.

**Proof sketch.** One case for each kind of operation. A context is added at the end, or none is. -/
lemma exists_made_apply (cs : Contexts) (op : Operation) :
    ∃ new, (cs.apply op).made = cs.made ++ new := by
  obtain ⟨-, -, h⟩ | ⟨parent, request, -, -, -, h⟩ | ⟨i, -, -, h⟩ := cs.apply_cases op
  · rw [h]
    exact ⟨_, rfl⟩
  · rw [h, derive]
    split
    · exact ⟨_, rfl⟩
    · exact ⟨[], by simp⟩
  · rw [h, cancel]
    split <;> exact ⟨[], by simp⟩

/-- A context that was made has the same number afterwards. -/
lemma getElem?_made_apply (hc : c < cs.made.length) (op : Operation) :
    (cs.apply op).made[c]? = cs.made[c]? := by
  obtain ⟨new, hnew⟩ := cs.exists_made_apply op
  rw [hnew, List.getElem?_append_left hc]

/-- A flag is set by the cancellation of a context of its family, and it stays set.

**Proof sketch.** Only a cancellation changes flags. If it speaks of a context that was made, it sets
the flag of the family of that context. -/
lemma isSet_apply_iff (cs : Contexts) (op : Operation) (family : Family) :
    (cs.apply op).flags.isSet family = true ↔ cs.flags.isSet family = true ∨
      ∃ i context, op = .cancel i ∧ cs.made[i]? = some context ∧ context.family = family := by
  have hkept (hop : ∀ i, op ≠ .cancel i) (hflags : (cs.apply op).flags = cs.flags) :
      (cs.apply op).flags.isSet family = true ↔ cs.flags.isSet family = true ∨
        ∃ i context, op = .cancel i ∧ cs.made[i]? = some context ∧ context.family = family := by
    rw [hflags]
    exact (or_iff_left fun ⟨i, _, h, _⟩ => hop i h).symm
  obtain ⟨rfl, -, -⟩ | ⟨parent, request, -, -, hne, h⟩ | ⟨i, rfl, -, h⟩ := cs.apply_cases op
  · exact hkept nofun rfl
  · refine hkept hne ?_
    rw [h, derive]
    split <;> rfl
  · rw [h, cancel]
    cases hi : cs.made[i]? with
    | none => simp [hi]
    | some context =>
      change (cs.flags.set context.family).isSet family = true ↔ _
      rw [Flags.isSet_set, or_comm]
      refine or_congr_right ⟨fun hfamily => ⟨i, context, rfl, hi, hfamily.symm⟩, ?_⟩
      rintro ⟨j, other, hj, hother, rfl⟩
      cases hj
      rw [Option.some.inj (hi.symm.trans hother)]

/-! ## Descent -/

/-- A context has one root and one way from it.

**Proof sketch.** Induction on the descent. A context has one origin, which says whether it is a root
and what it was made from. -/
lemma Descends.unique (h : Descends os root requests c) (h' : Descends os root' requests' c) :
    root' = root ∧ requests' = requests := by
  induction h generalizing requests' with
  | root h =>
    cases h' with
    | root => exact ⟨rfl, rfl⟩
    | derived hc => cases h.symm.trans hc
  | derived h _ ih =>
    cases h' with
    | root hroot => cases h.symm.trans hroot
    | derived hc hp =>
      cases h.symm.trans hc
      obtain ⟨rfl, rfl⟩ := ih hp
      exact ⟨rfl, rfl⟩

/-- Contexts that are made later change no descent. -/
lemma Descends.append (h : Descends os root requests c) (more : List Origin) :
    Descends (os ++ more) root requests c := by
  have hkept {c : Nat} {o : Origin} (h : os[c]? = some o) : (os ++ more)[c]? = some o := by
    rwa [List.getElem?_append_left (List.getElem?_eq_some_iff.mp h).1]
  induction h with
  | root h => exact .root (hkept h)
  | derived h _ ih => exact .derived (hkept h) ih

/-- What has an origin was made. -/
lemma Descends.lt (h : Descends os root requests c) : c < os.length := by
  cases h with
  | root h => exact (List.getElem?_eq_some_iff.mp h).1
  | derived h _ => exact (List.getElem?_eq_some_iff.mp h).1

/-- The root of a descent is one. -/
lemma Descends.origin_root (h : Descends os root requests c) : os[root]? = some .background := by
  induction h with
  | root h => exact h
  | derived _ _ ih => exact ih

/-- Of two roots, the later one has the greater family.

**Proof sketch.** The earlier root is one of those that are counted for the later one. -/
lemma familyOf_lt (h : os[root]? = some .background) (hlt : root < root') :
    familyOf os root < familyOf os root' := by
  obtain ⟨hroot, hget⟩ := List.getElem?_eq_some_iff.mp h
  have hsucc : familyOf os (root + 1) = familyOf os root + 1 := by
    unfold familyOf
    rw [List.take_succ_eq_append_getElem hroot, hget, List.count_append, List.count_singleton_self]
  have hle : familyOf os (root + 1) ≤ familyOf os root' :=
    (List.take_prefix_take_left hlt).sublist.count_le Origin.background
  calc familyOf os root < familyOf os root + 1 := Nat.lt_succ_self _
    _ = familyOf os (root + 1) := hsucc.symm
    _ ≤ familyOf os root' := hle

/-- Different roots have different families. -/
lemma eq_of_familyOf_eq (h : os[root]? = some .background) (h' : os[root']? = some .background)
    (heq : familyOf os root = familyOf os root') : root = root' := by
  by_contra hne
  rcases Nat.lt_or_gt_of_ne hne with hlt | hlt
  · exact Nat.ne_of_lt (familyOf_lt h hlt) heq
  · exact Nat.ne_of_gt (familyOf_lt h' hlt) heq

/-- Later origins do not change the family of a root. -/
lemma familyOf_append (h : os[root]? = some .background) (more : List Origin) :
    familyOf (os ++ more) root = familyOf os root := by
  have hroot := (List.getElem?_eq_some_iff.mp h).1
  unfold familyOf
  rw [List.take_append_of_le_length (Nat.le_of_lt hroot)]

/-! ## Histories record descent -/

/-- The contexts that were made are the ones that their origins say: each has the family of its
root, and the least of the deadlines that were asked for on the way from there. -/
structure Recorded (os : List Origin) (cs : Contexts) : Prop where
  families : cs.families = os.count .background
  length : cs.made.length = os.length
  descends : ∀ c < os.length, ∃ root requests, Descends os root requests c ∧
    cs.made[c]? = some ⟨familyOf os root, requests.min?⟩

namespace Recorded

/-- One more context leaves what is recorded of the others. -/
lemma descends_append (h : Recorded os cs) (hc : c < os.length) (o : Origin) (context : Context) :
    ∃ root requests, Descends (os ++ [o]) root requests c ∧
      (cs.made ++ [context])[c]? = some ⟨familyOf (os ++ [o]) root, requests.min?⟩ := by
  obtain ⟨root, requests, hd, hmade⟩ := h.descends c hc
  refine ⟨root, requests, hd.append [o], ?_⟩
  rw [List.getElem?_append_left (by rwa [h.length]), hmade, familyOf_append hd.origin_root]

/-- A new root has the next family, and no deadline.

**Proof sketch.** What was made before stays as it was. The new one is the last one, and the roots
before it are counted by the number of families. -/
lemma background (h : Recorded os cs) : Recorded (os ++ [.background]) cs.background := by
  refine ⟨?_, ?_, fun c hc => ?_⟩
  · simp [Contexts.background, h.families]
  · simp [Contexts.background, h.length]
  · rw [List.length_append, List.length_singleton] at hc
    rcases Nat.lt_or_eq_of_le (Nat.le_of_lt_succ hc) with hlt | rfl
    · exact h.descends_append hlt .background _
    · refine ⟨os.length, [], .root List.getElem?_concat_length, ?_⟩
      have hfamily : familyOf (os ++ [.background]) os.length = cs.families := by
        rw [familyOf, List.take_left, h.families]
      rw [hfamily, ← h.length]
      exact List.getElem?_concat_length

/-- A context that is made from another one descends from it, with one request more.

**Proof sketch.** What was made before stays as it was. The new one is the last one, and it has the
family and the requests of its parent besides its own. -/
lemma derive (h : Recorded os cs) {parent : Nat} (hparent : parent < os.length)
    (request : Option Moment) :
    Recorded (os ++ [.derived parent request]) (cs.derive parent (·.request request)) := by
  obtain ⟨root, requests, hd, hmade⟩ := h.descends parent hparent
  rw [Contexts.derive, hmade]
  refine ⟨?_, ?_, fun c hc => ?_⟩
  · simp [h.families]
  · simp [h.length]
  · rw [List.length_append, List.length_singleton] at hc
    rcases Nat.lt_or_eq_of_le (Nat.le_of_lt_succ hc) with hlt | rfl
    · exact h.descends_append hlt _ _
    · refine ⟨root, request.toList ++ requests,
        .derived List.getElem?_concat_length (hd.append _), ?_⟩
      rw [familyOf_append hd.origin_root, ← h.length]
      refine List.getElem?_concat_length.trans (congrArg some ?_)
      exact congrArg₂ Context.mk (Context.family_request _ request)
        (Context.deadline_request rfl request)

/-- A cancellation makes nothing. -/
lemma cancel (h : Recorded os cs) (i : Nat) : Recorded os (cs.cancel i) := by
  rw [Contexts.cancel]
  split
  · exact ⟨h.families, h.length, h.descends⟩
  · exact h

/-- A context is the one that its descent says. -/
lemma getElem?_of_descends (h : Recorded os cs) (hd : Descends os root requests c) :
    cs.made[c]? = some ⟨familyOf os root, requests.min?⟩ := by
  obtain ⟨root', requests', hd', hmade⟩ := h.descends c hd.lt
  obtain ⟨rfl, rfl⟩ := hd'.unique hd
  exact hmade

/-- Every context that was made has a descent. -/
lemma of_getElem? (h : Recorded os cs) {context : Context} (hc : cs.made[c]? = some context) :
    ∃ root requests, Descends os root requests c ∧ context = ⟨familyOf os root, requests.min?⟩ := by
  have hlt := (List.getElem?_eq_some_iff.mp hc).1
  obtain ⟨root, requests, hd, hmade⟩ := h.descends c (by rwa [← h.length])
  exact ⟨root, requests, hd, Option.some.inj (hc.symm.trans hmade)⟩

end Recorded

namespace Proper

/-- Contexts are what their descent says, after every history.

**Proof sketch.** Induction on the history. There is one case for each kind of operation
(`apply_cases`), and an operation of a proper history speaks of a context that was made. -/
lemma recorded (h : Proper history) : Recorded (origins history) (after history) := by
  induction h with
  | nil => exact ⟨rfl, rfl, nofun⟩
  | @snoc history op _ hop ih =>
    rw [after_snoc, origins_snoc]
    obtain ⟨-, ho, h⟩ | ⟨parent, request, hs, ho, -, h⟩ | ⟨i, -, ho, h⟩ :=
      (after history).apply_cases op
    · rw [ho, h]
      exact ih.background
    · rw [ho, h]
      exact ih.derive (hop parent hs) request
    · rw [ho, h, Option.toList_none, List.append_nil]
      exact ih.cancel i

/-- A cancellation speaks of a context that was made.

**Proof sketch.** Induction on the history. The operation speaks of a context made before it, and there
are no fewer later. -/
lemma lt_of_cancel (h : Proper history) {i : Nat} (hi : .cancel i ∈ history) :
    i < (origins history).length := by
  induction h with
  | nil => cases hi
  | @snoc history op _ hop ih =>
    rw [origins_snoc, List.length_append]
    rcases List.mem_append.mp hi with hi | hi
    · exact Nat.lt_add_right _ (ih hi)
    · obtain rfl := List.mem_singleton.mp hi
      exact Nat.lt_add_right _ (hop i rfl)

/-- The cancellations of a history that is one operation longer.

**Proof sketch.** A cancellation is one of those before, or the last one. What it speaks of was made
before and stays. -/
lemma cancelled_snoc_iff (h : Proper history)
    (hop : ∀ i, op.subject? = some i → i < (origins history).length) (family : Family) :
    (∃ i context, .cancel i ∈ history ++ [op] ∧
      (after (history ++ [op])).made[i]? = some context ∧ context.family = family) ↔
    (∃ i context, .cancel i ∈ history ∧
      (after history).made[i]? = some context ∧ context.family = family) ∨
    ∃ i context, op = .cancel i ∧
      (after history).made[i]? = some context ∧ context.family = family := by
  have hmade {i : Nat} (hi : .cancel i ∈ history ++ [op]) :
      (after (history ++ [op])).made[i]? = (after history).made[i]? := by
    have hlt : i < (origins history).length := by
      rcases List.mem_append.mp hi with hi | hi
      · exact h.lt_of_cancel hi
      · exact hop i (List.mem_singleton.mp hi ▸ rfl)
    rw [after_snoc]
    exact getElem?_made_apply (h.recorded.length ▸ hlt) op
  constructor
  · rintro ⟨i, context, hi, hcontext, hfamily⟩
    rw [hmade hi] at hcontext
    rcases List.mem_append.mp hi with hi | hi
    · exact .inl ⟨i, context, hi, hcontext, hfamily⟩
    · exact .inr ⟨i, context, (List.mem_singleton.mp hi).symm, hcontext, hfamily⟩
  · rintro (⟨i, context, hi, hcontext, hfamily⟩ | ⟨i, context, rfl, hcontext, hfamily⟩)
    · have hi := List.mem_append_left [op] hi
      exact ⟨i, context, hi, (hmade hi).trans hcontext, hfamily⟩
    · have hi := List.mem_append_right history (List.mem_singleton_self (Operation.cancel i))
      exact ⟨i, context, hi, (hmade hi).trans hcontext, hfamily⟩

/-- A flag is set exactly if a context of its family was cancelled.

**Proof sketch.** Induction on the history. An operation sets the flag if it cancels such a context,
and it adds a cancellation of such a context in the same case: what it makes itself has not been
cancelled before it. -/
lemma isSet_iff (h : Proper history) (family : Family) :
    (after history).flags.isSet family = true ↔ ∃ i context, .cancel i ∈ history ∧
      (after history).made[i]? = some context ∧ context.family = family := by
  induction h with
  | nil => simp [after, Flags.isSet]
  | @snoc history op hproper hop ih =>
    rw [hproper.cancelled_snoc_iff hop, after_snoc, isSet_apply_iff, ih]

/-- The flag of a context is set exactly if a context with the same root was cancelled.

**Proof sketch.** The flag is set if a context of the family was cancelled. Contexts of one family have
one root, since two roots have two families. -/
lemma isCancelled_iff (h : Proper history) (hd : Descends (origins history) root requests c)
    {context : Context} (hc : (after history).made[c]? = some context) :
    context.isCancelled (after history).flags = true ↔
      ∃ i way, .cancel i ∈ history ∧ Descends (origins history) root way i := by
  have hrecorded := h.recorded
  obtain ⟨root', requests', hd', rfl⟩ := hrecorded.of_getElem? hc
  obtain ⟨rfl, -⟩ := hd.unique hd'
  unfold Context.isCancelled
  rw [h.isSet_iff]
  constructor
  · rintro ⟨i, other, hi, hmade, hfamily⟩
    obtain ⟨root', way, hway, rfl⟩ := hrecorded.of_getElem? hmade
    obtain rfl := eq_of_familyOf_eq hway.origin_root hd.origin_root hfamily
    exact ⟨i, way, hi, hway⟩
  · rintro ⟨i, way, hi, hway⟩
    exact ⟨i, _, hi, hrecorded.getElem?_of_descends hway, rfl⟩

end Proper

/-- Whatever happens later, what was made stays, and flags stay set.

**Proof sketch.** Induction on what happens later. A step keeps what was made and the flags that are
set. -/
lemma after_append_keeps (history more : List Operation) :
    (∀ (c : Nat) (context : Context), (after history).made[c]? = some context →
      (after (history ++ more)).made[c]? = some context) ∧
    ∀ family, (after history).flags.isSet family = true →
      (after (history ++ more)).flags.isSet family = true := by
  unfold after
  rw [List.foldl_append]
  generalize history.foldl apply {} = cs
  induction more generalizing cs with
  | nil => exact ⟨fun _ _ h => h, fun _ h => h⟩
  | cons op more ih =>
    obtain ⟨hmade, hflags⟩ := ih (cs.apply op)
    refine ⟨fun c context h => hmade c context ?_,
      fun family h => hflags family ((cs.isSet_apply_iff op family).mpr (.inl h))⟩
    rwa [getElem?_made_apply (List.getElem?_eq_some_iff.mp h).1]

/-- **A family has one flag, and its deadlines only get earlier.** After a history of operations, in
which contexts are made as roots or from others and are cancelled, there is a context for each
origin, and of each of them this holds.

1. It has one root and one way from there.
2. It is cancelled exactly if the history cancels a context with that root, no matter when.
3. Its deadline is the least of those that were asked for on the way, and it has none if there were
   none.
4. So it never outlives the context it was made from.
5. A look at it finds the cancellation first, then a deadline that has come.
6. Once a look at it has failed, each later one fails, whatever else happens: with the cancellation
   if the flag is set by then, and else with the deadline.

**Proof sketch.** A context that is made from another one takes over the family and lowers the
deadline, so by induction on the history each has the family of its root and the least deadline of
its way (`Proper.recorded`). Families of different roots differ, and only cancellations set flags
(`Proper.isSet_iff`). Later operations take nothing back (`after_append_keeps`). -/
theorem family_and_deadline {history : List Operation} (h : Proper history) :
    (after history).made.length = (origins history).length ∧
    ∀ c context, (after history).made[c]? = some context →
      ∃ root requests, Descends (origins history) root requests c ∧
        (∀ root' requests', Descends (origins history) root' requests' c →
          root' = root ∧ requests' = requests) ∧
        (context.isCancelled (after history).flags = true ↔
          ∃ i way, .cancel i ∈ history ∧ Descends (origins history) root way i) ∧
        context.deadline = requests.min? ∧
        (∀ parent request, (origins history)[c]? = some (.derived parent request) →
          ∃ p, (after history).made[parent]? = some p ∧
            ∀ d, p.deadline = some d → ∃ d' ≤ d, context.deadline = some d') ∧
        (∀ now, context.check (after history).flags now =
          if context.isCancelled (after history).flags then .error .cancelled
          else if ∃ d ∈ requests, d ≤ now then .error .deadlineExceeded else .ok ()) ∧
        ∀ more now now', now ≤ now' → context.check (after history).flags now ≠ .ok () →
          (after (history ++ more)).made[c]? = some context ∧
          context.check (after (history ++ more)).flags now' =
            .error (if context.isCancelled (after (history ++ more)).flags then .cancelled
              else .deadlineExceeded) := by
  have hrecorded := h.recorded
  refine ⟨hrecorded.length, fun c context hc => ?_⟩
  obtain ⟨root, requests, hd, hcontext⟩ := hrecorded.of_getElem? hc
  have hdeadline : context.deadline = requests.min? := by rw [hcontext]
  refine ⟨root, requests, hd, fun _ _ hd' => hd.unique hd', h.isCancelled_iff hd hc, hdeadline,
    fun parent request ho => ?_, Context.check_eq hdeadline _, fun more now now' hnow hdone => ?_⟩
  · -- A derived context asks for its deadline where its parent already has one.
    cases hd with
    | root hroot => cases hroot.symm.trans ho
    | derived ho' hp =>
      cases ho'.symm.trans ho
      refine ⟨_, hrecorded.getElem?_of_descends hp, fun d hp => ?_⟩
      obtain ⟨d', hle, hd'⟩ := Context.request_deadline_le hp request
      rw [Context.deadline_request rfl] at hd'
      exact ⟨d', hle, hdeadline.trans hd'⟩
  · obtain ⟨hmade, hflags⟩ := after_append_keeps history more
    exact ⟨hmade c context hc, Context.check_of_check hnow (hflags _) hdone⟩

/-- Two trees: the contexts `0`, `1`, `2` and `4` belong together, and `3` is a root of its own. -/
def twoTrees : List Operation :=
  [.background, .withDeadline 0 9, .withTimeout 1 2 60, .background, .clone 2, .cancel 1]

/-- The clone `4` was asked to end at `9` and at `62`, and it is cancelled through `1`. The root `3`
is not cancelled. The clone is done for good.

**Proof sketch.** The history is proper step by step, and the descents are built from their roots. The
general theorem then says which flags are set and that the clone stays done. -/
theorem family_and_deadline_two_trees :
    Proper twoTrees ∧
    (after twoTrees).made[4]? = some ⟨0, some 9⟩ ∧ [62, 9].min? = some 9 ∧
    (⟨0, some 9⟩ : Context).isCancelled (after twoTrees).flags = true ∧
    (after twoTrees).made[3]? = some ⟨1, none⟩ ∧
    ¬ (⟨1, none⟩ : Context).isCancelled (after twoTrees).flags = true ∧
    ∀ more now, (⟨0, some 9⟩ : Context).check (after (twoTrees ++ more)).flags now ≠ .ok () := by
  have hroot : Proper [.background] := Proper.nil.snoc nofun
  have hdeadline := @Proper.snoc _ (.withDeadline 0 9) hroot fun i hi => by cases hi; decide
  have htimeout := @Proper.snoc _ (.withTimeout 1 2 60) hdeadline fun i hi => by cases hi; decide
  have hsecond := @Proper.snoc _ .background htimeout nofun
  have hclone := @Proper.snoc _ (.clone 2) hsecond fun i hi => by cases hi; decide
  have hproper : Proper twoTrees :=
    @Proper.snoc _ (.cancel 1) hclone fun i hi => by cases hi; decide
  obtain ⟨-, hall⟩ := family_and_deadline hproper
  have hzero : Descends (origins twoTrees) 0 [] 0 := .root rfl
  have hone : Descends (origins twoTrees) 0 [9] 1 :=
    @Descends.derived _ _ _ _ (some 9) _ rfl hzero
  have htwo : Descends (origins twoTrees) 0 [62, 9] 2 :=
    @Descends.derived _ _ _ _ (some 62) _ rfl hone
  have hfour : Descends (origins twoTrees) 0 [62, 9] 4 :=
    @Descends.derived _ _ _ _ none _ rfl htwo
  have hthree : Descends (origins twoTrees) 3 [] 3 := .root rfl
  obtain ⟨root, requests, -, hunique, hcancelled, hleast, -, -, hlater⟩ :=
    hall 4 ⟨0, some 9⟩ rfl
  obtain ⟨rfl, rfl⟩ := hunique _ _ hfour
  obtain ⟨root', requests', -, hunique', hcancelled', -⟩ := hall 3 ⟨1, none⟩ rfl
  obtain ⟨rfl, rfl⟩ := hunique' _ _ hthree
  refine ⟨hproper, rfl, hleast.symm, hcancelled.mpr ⟨1, [9], by simp [twoTrees], hone⟩, rfl,
    fun hset => ?_, fun more now => ?_⟩
  · obtain ⟨i, way, hi, hway⟩ := hcancelled'.mp hset
    obtain rfl : i = 1 := by simpa [twoTrees] using hi
    cases (hone.unique hway).1
  · have hdone : (⟨0, some 9⟩ : Context).check (after twoTrees).flags 0 = .error .cancelled := rfl
    obtain ⟨-, hcheck⟩ := hlater more 0 now (Nat.zero_le now) (by rw [hdone]; nofun)
    rw [hcheck]
    nofun

end Contexts

end Formula
