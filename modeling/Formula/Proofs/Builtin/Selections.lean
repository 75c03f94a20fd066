import Formula.Proofs.Builtin.Entries
import Mathlib.Data.List.Forall2

set_option autoImplicit false

/-!
# Parts of maps, and maps put together

Key arguments divide a map into the entries whose keys they name and the others. Maps are put together by
`merge`, or by adding one after the other; the last one that has a key counts.

## Main definitions

* `Formula.Builtin.Maps.KeyArgument`, `Formula.Builtin.Maps.Names` — what names keys, and which.
* `Formula.Builtin.Maps.keyItems` — what arguments name one by one.
* `Formula.Builtin.Maps.Divides` — two maps are what `pick` and `omit` give.

## Main results

* `Formula.Builtin.Maps.named_eq` — keys are read one by one, however they are grouped.
* `Formula.Builtin.Maps.merge_eq`, `Formula.Builtin.Maps.foldlM_add` — merging and adding unite fields.
* `Formula.Builtin.Maps.pick_omit_merge` — the functions divide maps and put them together.
-/

namespace Formula.Builtin.Maps

variable {args : List Value} {fields : Record Value} {maps : List (Record Value)} {keys : List String}
  {key name : String} {offender : Value}

/-! ## Keys -/

/-- An argument that names keys: a text or an array of texts. -/
inductive KeyArgument : Value → Prop
  | text (key : String) : KeyArgument (.string key)
  | texts (keys : List String) : KeyArgument (.array (keys.map .string))

/-- A key is one of the arguments, or an item of one of them. -/
def Names (args : List Value) (key : String) : Prop :=
  .string key ∈ args ∨ ∃ items, .array items ∈ args ∧ .string key ∈ items

/-- What arguments name, texts or not: the items of arrays, and other arguments themselves. -/
def keyItems (args : List Value) : List Value :=
  args.flatMap Lists.flattened

/-- The keys are read one after the other, however they are grouped.

**Proof sketch.** The items of an argument are read into a list, and the lists are joined. Induction on
the arguments shows that this is the same as reading all the items in a row. -/
lemma named_eq (name : String) (args : List Value) :
    named name args = (keyItems args).mapM fun item => Argument.string name [item] 0 := by
  have hgroups : named name args =
      args.mapM (fun arg => (Lists.flattened arg).mapM fun item => Argument.string name [item] 0) >>=
        fun keys => pure keys.flatten := by
    refine congrArg (fun f => args.mapM f >>= fun keys => pure keys.flatten) (funext fun arg => ?_)
    cases arg <;> rfl
  rw [hgroups]
  clear hgroups
  induction args with
  | nil => rfl
  | cons arg rest ih =>
    rw [List.mapM_cons, keyItems, List.flatMap_cons, List.mapM_append, ← keyItems, ← ih]
    simp

/-- Items are texts, or there is a first one that is none.

**Proof sketch.** Induction on the items. -/
lemma texts_or_offender (items : List Value) :
    (∃ keys : List String, items = keys.map .string) ∨
    ∃ (keys : List String) (offender : Value) (after : List Value),
      items = keys.map .string ++ offender :: after ∧ ∀ s, offender ≠ .string s := by
  induction items with
  | nil => exact .inl ⟨[], rfl⟩
  | cons item rest ih =>
    by_cases hitem : ∃ s, item = .string s
    · obtain ⟨s, rfl⟩ := hitem
      rcases ih with ⟨keys, rfl⟩ | ⟨keys, offender, after, rfl, hoffender⟩
      · exact .inl ⟨s :: keys, rfl⟩
      · exact .inr ⟨s :: keys, offender, after, rfl, hoffender⟩
    · exact .inr ⟨[], item, rest, rfl, not_exists.mp hitem⟩

/-- If each of the items is a text, then they are texts. -/
lemma texts_of_forall {items : List Value} (h : ∀ item ∈ items, ∃ s, item = .string s) :
    ∃ keys : List String, items = keys.map .string := by
  rcases texts_or_offender items with htexts | ⟨keys, offender, after, rfl, hoffender⟩
  · exact htexts
  · obtain ⟨s, hs⟩ := h offender (by simp)
    exact absurd hs (hoffender s)

/-- Arguments name texts only if each of them names keys.

**Proof sketch.** What an argument names is named by the arguments, so it is a text, and the argument is
one or an array of such. Conversely all that a text or an array of texts names is text. -/
lemma texts_iff : (∃ keys : List String, keyItems args = keys.map .string) ↔
    ∀ arg ∈ args, KeyArgument arg := by
  constructor
  · rintro ⟨keys, hkeys⟩ arg harg
    have htext : ∀ item ∈ Lists.flattened arg, ∃ s, item = .string s := by
      intro item hitem
      have hmem : item ∈ keyItems args := List.mem_flatMap.mpr ⟨arg, harg, hitem⟩
      rw [hkeys] at hmem
      obtain ⟨s, -, rfl⟩ := List.mem_map.mp hmem
      exact ⟨s, rfl⟩
    cases arg with
    | string s => exact .text s
    | array items =>
      obtain ⟨names, rfl⟩ := texts_of_forall htext
      exact .texts names
    | _ =>
      obtain ⟨s, hs⟩ := htext _ (List.mem_singleton.mpr rfl)
      cases hs
  · intro h
    refine texts_of_forall fun item hitem => ?_
    obtain ⟨arg, harg, hitem⟩ := List.mem_flatMap.mp hitem
    cases h arg harg with
    | text s => exact ⟨s, List.mem_singleton.mp hitem⟩
    | texts names =>
      obtain ⟨s, -, rfl⟩ := List.mem_map.mp hitem
      exact ⟨s, rfl⟩

/-! ## Keys that are read -/

/-- Texts are read as they are. -/
lemma mapM_texts (name : String) (keys : List String) :
    ((keys.map Value.string).mapM fun item => Argument.string name [item] 0) = .ok keys := by
  rw [mapM_eq_ok_iff, List.forall₂_map_left_iff, List.forall₂_same]
  intro key _
  rfl

/-- The keys that texts name are these texts. -/
lemma named_of_texts (h : keyItems args = keys.map .string) : named name args = .ok keys := by
  rw [named_eq, h, mapM_texts]

/-- The first key that is no text is refused for its kind. -/
lemma named_of_offender {after : List Value}
    (h : keyItems args = keys.map .string ++ offender :: after)
    (hoffender : ∀ s, offender ≠ .string s) :
    named name args = .error (.typeMismatch name "string" offender.typeName) := by
  have hrefused : Argument.string name [offender] 0 =
      .error (.typeMismatch name "string" offender.typeName) := by
    cases offender with
    | string s => exact absurd rfl (hoffender s)
    | _ => rfl
  rw [named_eq, h, List.mapM_append, mapM_texts, List.mapM_cons, hrefused]
  rfl

/-- The keys that are named are the texts among what is named.

**Proof sketch.** An array names its items, and every other argument names itself. -/
lemma mem_keyItems : .string key ∈ keyItems args ↔ Names args key := by
  simp only [keyItems, List.mem_flatMap, Names]
  constructor
  · rintro ⟨arg, harg, hkey⟩
    cases arg with
    | array items => exact .inr ⟨items, harg, hkey⟩
    | _ => simp_all [Lists.flattened]
  · rintro (harg | ⟨items, harg, hkey⟩)
    · exact ⟨.string key, harg, by simp [Lists.flattened]⟩
    · exact ⟨.array items, harg, hkey⟩

/-! ## Divided maps -/

/-- The fields whose keys are wanted, for keys that are read. -/
lemma select_eq {wanted : Bool} (h : keyItems args = keys.map .string) :
    select name wanted (.map fields :: args) =
      .ok (.map (fields.filter fun field => keys.contains field.1 == wanted)) := by
  rw [select]
  show (named name args >>= fun keys => _) = _
  rw [named_of_texts h]
  rfl

/-- The first key that is no text is refused in a selection too. -/
lemma select_of_offender {wanted : Bool} {after : List Value}
    (h : keyItems args = keys.map .string ++ offender :: after) (hoffender : ∀ s, offender ≠ .string s) :
    select name wanted (.map fields :: args) =
      .error (.typeMismatch name "string" offender.typeName) := by
  rw [select]
  show (named name args >>= fun keys => _) = _
  rw [named_of_offender h hoffender]
  rfl

/-- Arguments divide a map into what is picked and what is left. The functions want one of them at least, so
they are only called by name if there is one. -/
structure Divides (args : List Value) (fields picked left : Record Value) : Prop where
  pick_eq : pick (.map fields :: args) = .ok (.map picked)
  without_eq : without (.map fields :: args) = .ok (.map left)
  gives_pick : args ≠ [] → Gives "pick" (.map fields :: args) (.ok (.map picked))
  gives_omit : args ≠ [] → Gives "omit" (.map fields :: args) (.ok (.map left))

/-- Keys divide a map into the fields with these keys and those without. -/
lemma divides (fields : Record Value) (h : keyItems args = keys.map .string) :
    Divides args fields (fields.filter fun field => keys.contains field.1 == true)
      (fields.filter fun field => keys.contains field.1 == false) where
  pick_eq := select_eq h
  without_eq := select_eq h
  gives_pick hne := gives_plain rfl (accepts_cons _ hne le_rfl) (select_eq h)
  gives_omit hne := gives_plain rfl (accepts_cons _ hne le_rfl) (select_eq h)

/-- Arguments that name texts name just these keys. -/
lemma names_iff (h : keyItems args = keys.map .string) : Names args key ↔ key ∈ keys := by
  rw [← mem_keyItems, h]
  simp

/-- No key is both picked and left. -/
lemma disjoint_keys_filter (keys : List String) (fields : Record Value) :
    (Record.keys (fields.filter fun field => keys.contains field.1 == true)).Disjoint
      (Record.keys (fields.filter fun field => keys.contains field.1 == false)) := by
  intro key hpicked hleft
  obtain ⟨field, hfield, rfl⟩ := List.mem_map.mp hpicked
  obtain ⟨other, hother, heq⟩ := List.mem_map.mp hleft
  have hnamed := (List.mem_filter.mp hfield).2
  have hnot := (List.mem_filter.mp hother).2
  rw [heq] at hnot
  simp_all

/-- Only which keys are named matters. -/
lemma filter_congr_keys {keys keys' : List String} (h : ∀ key, key ∈ keys' ↔ key ∈ keys)
    (fields : Record Value) (wanted : Bool) :
    (fields.filter fun field => keys'.contains field.1 == wanted) =
      fields.filter fun field => keys.contains field.1 == wanted := by
  refine List.filter_congr fun field _ => ?_
  have hcontains : keys'.contains field.1 = keys.contains field.1 := by
    rw [Bool.eq_iff_iff, List.contains_iff_mem, List.contains_iff_mem, h]
  rw [hcontains]

/-! ## Merged maps -/

/-- Each argument of a list of maps is a map. -/
lemma map_at {m : Record Value} {i : Nat} (name : String) (h : maps[i]? = some m) :
    Argument.map name (maps.map .map) i = .ok m := by
  have hget : (maps.map Value.map)[i]? = some (.map m) := by rw [List.getElem?_map, h]; rfl
  rw [Argument.map, Argument.any, hget]
  rfl

/-- Maps are put together from the left, beginning with an empty one.

**Proof sketch.** The looks between them do not change the result, so the arguments are read as the list
of maps that they are. -/
lemma merge_eq (maps : List (Record Value)) :
    (merge (maps.map .map)).result = .ok (.map (maps.foldl Record.union [])) := by
  have hmaps : ((List.range (maps.map Value.map).length).mapM fun i =>
      Argument.map "merge" (maps.map Value.map) i) = .ok maps := by
    rw [mapM_eq_ok_iff, List.forall₂_iff_get]
    refine ⟨by simp, fun i _ hi => ?_⟩
    simp only [List.get_eq_getElem, List.getElem_range]
    exact map_at "merge" (List.getElem?_eq_getElem hi)
  have hlook (i : Nat) :
      (do Looking.look; Argument.map "merge" (maps.map Value.map) i :
        Looking (Record Value)).result = Argument.map "merge" (maps.map Value.map) i := by
    rw [Looking.result_bind, Looking.result_look, Looking.result_lift]
    rfl
  rw [merge, Looking.result_bind, Looking.result_mapM]
  simp only [hlook]
  rw [hmaps]
  rfl

/-- The same for a call by the name, which needs one map at least. -/
lemma gives_merge (first : Record Value) (rest : List (Record Value)) :
    Gives "merge" ((first :: rest).map .map)
      (.ok (.map ((first :: rest).foldl Record.union []))) :=
  gives_watching rfl (by simp [Arity.accepts]) (merge_eq (first :: rest))

/-- Maps are added one after the other. -/
lemma foldlM_add (first : Record Value) (rest : List (Record Value)) :
    rest.foldlM (fun sum m => BinaryOperator.add.apply sum (.map m)) (.map first) =
      .ok (.map (rest.foldl Record.union first)) := by
  induction rest generalizing first with
  | nil => rfl
  | cons m rest ih =>
    rw [List.foldlM_cons, List.foldl_cons, ← ih]
    rfl

/-- The maps but the first are added to it. -/
lemma foldl_union_cons {first : Record Value} (h : first.Ordered) (rest : List (Record Value)) :
    (first :: rest).foldl Record.union [] = rest.foldl Record.union first := by
  rw [List.foldl_cons]
  show rest.foldl Record.union (Record.ofList first) = _
  rw [h.ofList_eq]

/-- Merged maps show under a key what the last of them shows that has it. -/
lemma shows_merged (h : ∀ m ∈ maps, Record.Ordered m) {entry : Option Value} :
    Shows (maps.foldl Record.union []) key entry ↔
      entry = maps.reverse.findSome? fun m => Record.find? m key := by
  rw [shows_iff, Record.find?_foldl_union [] h]
  show entry = Option.or _ none ↔ _
  rw [Option.or_none]

/-- **The functions `pick` and `omit` divide a map, and `merge` puts maps together.**

1. For arguments that are texts or arrays of texts, there are two maps without a common key. The one that
   `pick` gives has the entries of the map whose keys are named, and the one that `omit` gives has the others.
   Merged they are the map.
2. Other arguments that name the same keys lead to the same two maps, however these are grouped, ordered or
   repeated.
3. Where a key is no text, both functions fail for its kind.
4. Merging maps and adding one after the other lead to one map. Under each key it shows the entry of the last
   map that has one, and none if no map has one.

**Proof sketch.** Keys are read one after the other, and only whether a key is among them matters. Maps in
which the same entries are found are the same. -/
theorem pick_omit_merge :
    (∀ (fields : Record Value) (args : List Value), fields.Ordered → (∀ arg ∈ args, KeyArgument arg) →
      ∃ picked left : Record Value, picked.Ordered ∧ left.Ordered ∧
        Divides args fields picked left ∧
        picked.keys.Disjoint left.keys ∧
        (∀ key v, (key, v) ∈ picked ↔ (key, v) ∈ fields ∧ Names args key) ∧
        (∀ key v, (key, v) ∈ left ↔ (key, v) ∈ fields ∧ ¬Names args key) ∧
        Gives "merge" [.map picked, .map left] (.ok (.map fields)) ∧
        ∀ others : List Value, (∀ arg ∈ others, KeyArgument arg) →
          (∀ key, Names others key ↔ Names args key) → Divides others fields picked left) ∧
    (∀ (fields : Record Value) (args : List Value), (∃ arg ∈ args, ¬KeyArgument arg) →
      ∃ offender ∈ keyItems args, (∀ s, offender ≠ .string s) ∧
        Gives "pick" (.map fields :: args) (.error (.typeMismatch "pick" "string" offender.typeName)) ∧
        Gives "omit" (.map fields :: args) (.error (.typeMismatch "omit" "string" offender.typeName))) ∧
    ∀ (first : Record Value) (rest : List (Record Value)), (∀ m ∈ first :: rest, m.Ordered) →
      ∃ merged : Record Value, merged.Ordered ∧
        Gives "merge" ((first :: rest).map .map) (.ok (.map merged)) ∧
        rest.foldlM (fun sum m => BinaryOperator.add.apply sum (.map m)) (.map first) =
          .ok (.map merged) ∧
        (∀ key v, Shows merged key (some v) ↔ ∃ before m after, first :: rest = before ++ m :: after ∧
          Shows m key (some v) ∧ ∀ later ∈ after, Shows later key none) ∧
        ∀ key, Shows merged key none ↔ ∀ m ∈ first :: rest, Shows m key none := by
  refine ⟨fun fields args hfields hargs => ?divided, fun fields args hargs => ?refused,
    fun first rest hmaps => ?merged⟩
  case divided =>
    obtain ⟨keys, hkeys⟩ := texts_iff.mpr hargs
    refine ⟨_, _, hfields.filter _, hfields.filter _, divides fields hkeys, ?disjoint, ?picked, ?left,
      ?whole, ?others⟩
    case disjoint => exact disjoint_keys_filter keys fields
    case picked =>
      intro key v
      rw [names_iff hkeys]
      simp
    case left =>
      intro key v
      rw [names_iff hkeys]
      simp
    case whole =>
      have hmerge := gives_merge (fields.filter fun field => keys.contains field.1 == true)
        [fields.filter fun field => keys.contains field.1 == false]
      rwa [foldl_union_cons (hfields.filter _), List.foldl_cons, hfields.union_filter] at hmerge
    case others =>
      intro others hothers hsame
      obtain ⟨keys', hkeys'⟩ := texts_iff.mpr hothers
      have hmem (key : String) : key ∈ keys' ↔ key ∈ keys := by
        rw [← names_iff hkeys', ← names_iff hkeys, hsame]
      -- The same keys pick the same fields, whatever the order in which they are named.
      have h := divides fields hkeys'
      rwa [filter_congr_keys hmem, filter_congr_keys hmem] at h
  case refused =>
    rcases texts_or_offender (keyItems args) with htexts | ⟨keys, offender, after, hitems, hoffender⟩
    · obtain ⟨arg, harg, hnot⟩ := hargs
      exact absurd (texts_iff.mp htexts arg harg) hnot
    · have hne : args ≠ [] := by
        rintro rfl
        simp at hargs
      have hcount := accepts_cons (.map fields) hne le_rfl
      refine ⟨offender, by simp [hitems], hoffender, ?_, ?_⟩
      · exact gives_plain rfl hcount (select_of_offender hitems hoffender)
      · exact gives_plain rfl hcount (select_of_offender hitems hoffender)
  case merged =>
    -- The first map is the sum to begin with, or is put into an empty one, which is the same.
    obtain ⟨hfirst, -⟩ := List.forall_mem_cons.mp hmaps
    refine ⟨(first :: rest).foldl Record.union [], ?ordered, gives_merge first rest, ?sum, ?last, ?none⟩
    case ordered => exact Record.Ordered.foldl_union .nil _
    case sum => rw [foldl_union_cons hfirst, foldlM_add]
    case last =>
      intro key v
      simp only [shows_merged hmaps, shows_iff, @eq_comm _ (some v), @eq_comm _ none]
      exact Record.findSome?_reverse_eq_some_iff
    case none =>
      intro key
      rw [shows_merged hmaps, eq_comm, List.findSome?_eq_none_iff]
      simp only [List.mem_reverse, shows_iff, @eq_comm _ none]

/-- A key that is named twice, one that the map does not have, a key that is no text, and a null that takes the
place of an entry. -/
theorem pick_omit_merge_repeated :
    let fields : Record Value := [("a", .null), ("b", .bool true), ("é", .string "")]
    let args : List Value := [.string "é", .array [.string "b", .string "é", .string "x"]]
    let later : Record Value := [("b", .null)]
    fields.Ordered ∧ (∀ arg ∈ args, KeyArgument arg) ∧ (∀ m ∈ [fields, later], m.Ordered) ∧
    (∃ picked left : Record Value,
      Gives "pick" (.map fields :: args) (.ok (.map picked)) ∧
      Gives "omit" (.map fields :: args) (.ok (.map left)) ∧
      ("é", .string "") ∈ picked ∧ ("a", .null) ∈ left ∧
      Gives "merge" [.map picked, .map left] (.ok (.map fields))) ∧
    (¬KeyArgument (.array [.string "a", .null]) ∧ ∃ kind,
      Gives "pick" [.map fields, .array [.string "a", .null]]
        (.error (.typeMismatch "pick" "string" kind))) ∧
    ∃ merged : Record Value, Gives "merge" [.map fields, .map later] (.ok (.map merged)) ∧
      BinaryOperator.add.apply (.map fields) (.map later) = .ok (.map merged) ∧
      Shows merged "b" (some .null) ∧ Shows merged "c" none := by
  intro fields args later
  have hfields : fields.Ordered := by
    refine .cons ?_ (List.pairwise_pair.mpr (show "b" < "é" by decide))
    simp only [List.forall_mem_cons, List.not_mem_nil, false_imp_iff, implies_true, and_true]
    exact ⟨show "a" < "b" by decide, show "a" < "é" by decide⟩
  have hargs : ∀ arg ∈ args, KeyArgument arg := by
    simp only [args, List.forall_mem_cons, List.not_mem_nil, false_imp_iff, implies_true, and_true]
    exact ⟨.text "é", .texts ["b", "é", "x"]⟩
  have hmaps : ∀ m ∈ [fields, later], m.Ordered := by
    simp only [List.forall_mem_cons, List.not_mem_nil, false_imp_iff, implies_true, and_true]
    exact ⟨hfields, List.pairwise_singleton _ _⟩
  have hnot : ¬KeyArgument (.array [.string "a", .null]) := by
    intro h
    obtain ⟨keys, hkeys⟩ := texts_iff.mpr (List.forall_mem_singleton.mpr h)
    have hnull : Value.null ∈ keys.map Value.string := by
      rw [← hkeys]
      simp [keyItems, Lists.flattened]
    simp at hnull
  obtain ⟨hdivided, hrefused, hmerged⟩ := pick_omit_merge
  obtain ⟨picked, left, -, -, hdivides, -, hpicked, hleft, hwhole, -⟩ := hdivided fields args hfields hargs
  obtain ⟨offender, -, -, hpick, -⟩ := hrefused fields [.array [.string "a", .null]] ⟨_, by simp, hnot⟩
  obtain ⟨merged, -, hmerge, hsum, hlast, hnone⟩ := hmerged fields [later] hmaps
  refine ⟨hfields, hargs, hmaps, ⟨picked, left, hdivides.gives_pick (by simp [args]),
    hdivides.gives_omit (by simp [args]), (hpicked _ _).mpr ⟨by simp [fields], .inl (by simp [args])⟩,
    (hleft _ _).mpr ⟨by simp [fields], ?_⟩, hwhole⟩, ⟨hnot, _, hpick⟩, merged, hmerge, hsum,
    (hlast _ _).mpr ⟨[fields], later, [], rfl, shows_find? later "b", by simp⟩, (hnone _).mpr ?_⟩
  · simp [Names, args]
  · simp only [List.forall_mem_cons, List.not_mem_nil, false_imp_iff, implies_true, and_true]
    exact ⟨shows_find? fields "c", shows_find? later "c"⟩

end Formula.Builtin.Maps
