import Formula.Evaluation.Operator
import Formula.Evaluation.Path
import Formula.Proofs.Builtin.Calls
import Formula.Proofs.Text.Bytes
import Formula.Proofs.Value.Integer

set_option autoImplicit false

/-!
# Entries of maps

A map is asked for a key in six ways, which differ in what they make of a key that is not there: some fail,
some give something else, and some give a boolean. What they show is the same.

## Main definitions

* `Formula.Builtin.Maps.Shows` — all that asks a map for a key shows an entry, or that there is none.

## Main results

* `Formula.Builtin.Maps.shows_iff` — what a map shows under a key is what is found in its fields.
* `Formula.Builtin.Maps.entries_agree` — asking for keys, changing an entry and listing all of them agree.
-/

namespace Formula.Builtin.Maps

variable {fields : Record Value} {key k : String} {entry other : Option Value} {v : Value} {i : Nat}

/-- All that asks a map for a key shows this entry, or that there is none. -/
structure Shows (fields : Record Value) (key : String) (entry : Option Value) : Prop where
  hasKey : Gives "hasKey" [.map fields, .string key] (.ok (.bool entry.isSome))
  isIn : BinaryOperator.isIn.apply (.string key) (.map fields) = .ok (.bool entry.isSome)
  element : (Value.map fields).element (.string key) = entry.elim (.error (.unknownKey key)) .ok
  member : (Value.map fields).member key = entry.elim (.error (.unknownKey key)) .ok
  get : Gives "get" [.map fields, .string key] (.ok (entry.getD .null))
  getOr : ∀ d, Gives "get" [.map fields, .string key, d] (.ok (entry.getD d))

/-! ## What is shown -/

/-- A member is what is found under its name. -/
lemma member_eq (fields : Record Value) (key : String) :
    (Value.map fields).member key = (fields.find? key).elim (.error (.unknownKey key)) .ok := by
  rw [Value.member]
  cases fields.find? key <;> rfl

/-- An entry is given, and otherwise the third argument or null. -/
lemma get_eq (fields : Record Value) (key : String) (more : List Value) :
    Maps.get (.map fields :: .string key :: more) =
      .ok ((fields.find? key).getD (more.head?.getD .null)) := by
  unfold Maps.get
  simp only [Argument.map, Argument.string, Argument.any, List.getElem?_cons_zero,
    List.getElem?_cons_succ, bind, Except.bind, pure, Except.pure]
  cases fields.find? key with
  | some v => rfl
  | none => cases more <;> rfl

/-- What a map shows under a key is what is found in its fields. -/
lemma shows_find? (fields : Record Value) (key : String) :
    Shows fields key (fields.find? key) where
  hasKey := gives_plain rfl rfl rfl
  isIn := rfl
  element := member_eq fields key
  member := member_eq fields key
  get := gives_plain rfl rfl (get_eq fields key [])
  getOr d := gives_plain rfl rfl (get_eq fields key [d])

/-- A map shows one thing under a key. -/
lemma Shows.unique (h : Shows fields key entry) (h' : Shows fields key other) : entry = other := by
  have hmember := h.member.symm.trans h'.member
  cases entry <;> cases other <;> simp_all

/-- A map shows under a key what is found in its fields, and nothing else. -/
lemma shows_iff : Shows fields key entry ↔ entry = fields.find? key := by
  constructor
  · exact fun h => h.unique (shows_find? fields key)
  · rintro rfl
    exact shows_find? fields key

/-! ## Changes -/

/-- The length of a map is the number of its fields. -/
lemma gives_len_map (fields : Record Value) :
    Gives "len" [.map fields] (.ok (.ofNat fields.length)) :=
  gives_of_body (f := General.len) rfl rfl rfl rfl

/-- A map is changed by putting the entry in. -/
lemma gives_set (fields : Record Value) (key : String) (v : Value) :
    Gives "set" [.map fields, .string key, v] (.ok (.map (fields.insert key v))) :=
  gives_plain rfl rfl rfl

/-- A changed map shows the new entry, and under other keys what it showed before. -/
lemma shows_insert : Shows (fields.insert key v) k entry ↔
    entry = if key = k then some v else fields.find? k := by
  rw [shows_iff, Record.find?_insert]

/-! ## Lists of all entries -/

/-- The key and the entry at a place of a map belong together.

**Proof sketch.** The field at this place is found under its own key, because the record is in order. -/
lemma exists_field (h : fields.Ordered) (hi : i < fields.length) :
    ∃ key v, fields.keys[i]? = some key ∧ fields.values[i]? = some v ∧ Shows fields key (some v) := by
  obtain ⟨⟨key, v⟩, hfield⟩ : ∃ field, fields[i]? = some field :=
    ⟨_, List.getElem?_eq_getElem hi⟩
  have hfind : fields.find? key = some v :=
    h.find?_eq_some_iff.mpr (List.mem_of_getElem? hfield)
  refine ⟨key, v, ?_, ?_, shows_iff.mpr hfind.symm⟩
  · rw [Record.keys, List.getElem?_map, hfield]
    rfl
  · rw [Record.values, List.getElem?_map, hfield]
    rfl

/-- **All that asks a map for a key agrees, and so do changes and lists of its entries.** For every map:

1. Under each key there is an entry or none, and `hasKey`, `in`, indexing, the access to a member and `get`
   all show it.
2. A map changed by `set` shows the new entry under its key, and under all other keys what it showed before.
   It is longer by one if there was no entry under the key, and otherwise as long as before.
3. What `keys` gives strictly increases by bytes, and these are the keys that have an entry.
4. At each place, what `values` gives is the entry of the key that `keys` gives there.

**Proof sketch.** All of them look up the same list of fields, in which a name stands only once. An entry that
is put into it is found under its name, and nothing else changes. -/
theorem entries_agree (h : fields.Ordered) :
    (∀ key, ∃ entry, Shows fields key entry ∧ ∀ other, Shows fields key other → other = entry) ∧
    (∀ key v, ∃ changed : Record Value, changed.Ordered ∧
      Gives "set" [.map fields, .string key, v] (.ok (.map changed)) ∧
      Shows changed key (some v) ∧
      (∀ k entry, k ≠ key → (Shows changed k entry ↔ Shows fields k entry)) ∧
      (Shows fields key none → Gives "len" [.map changed] (.ok (.ofNat (fields.length + 1)))) ∧
      (∀ w, Shows fields key (some w) → Gives "len" [.map changed] (.ok (.ofNat fields.length)))) ∧
    Gives "len" [.map fields] (.ok (.ofNat fields.length)) ∧
    ∃ (names : List String) (values : List Value),
      Gives "keys" [.map fields] (.ok (.array (names.map .string))) ∧
      Gives "values" [.map fields] (.ok (.array values)) ∧
      (names.Pairwise fun a b => Text.bytes a < Text.bytes b) ∧
      (∀ key, key ∈ names ↔ ∃ v, Shows fields key (some v)) ∧
      ∀ i < fields.length, ∃ key v, names[i]? = some key ∧ values[i]? = some v ∧
        Shows fields key (some v) ∧
        ∀ p : Value, p.position = .ok i →
          (Value.array (names.map .string)).element p = .ok (.string key) ∧
          (Value.array values).element p = .ok v := by
  refine ⟨fun key => ⟨_, shows_find? fields key, fun other hother => shows_iff.mp hother⟩,
    fun key v => ⟨fields.insert key v, h.insert key v, gives_set fields key v, ?shown, ?others,
      ?longer, ?same⟩, gives_len_map fields,
    fields.keys, fields.values, gives_plain rfl rfl rfl, gives_plain rfl rfl rfl, ?sorted, ?all, ?places⟩
  case shown => rw [shows_insert, if_pos rfl]
  case others =>
    intro k entry hk
    rw [shows_insert, if_neg hk.symm, shows_iff]
  case longer =>
    intro hnone
    have hlen := gives_len_map (fields.insert key v)
    rwa [h.length_insert, Record.contains, ← shows_iff.mp hnone] at hlen
  case same =>
    intro w hw
    have hlen := gives_len_map (fields.insert key v)
    rwa [h.length_insert, Record.contains, ← shows_iff.mp hw] at hlen
  case sorted => exact (Record.ordered_iff.mp h).imp Text.lt_iff_bytes_lt.mp
  case all =>
    intro key
    simp only [shows_iff, Record.mem_keys, eq_comm]
  case places =>
    intro i hi
    obtain ⟨key, v, hkey, hv, hshows⟩ := exists_field h hi
    refine ⟨key, v, hkey, hv, hshows, fun p hp => ⟨Value.element_array_of_getElem? hp ?_,
      Value.element_array_of_getElem? hp hv⟩⟩
    rw [List.getElem?_map, hkey]
    rfl

/-- An entry that is null differs from none at all. -/
theorem entries_agree_null :
    let fields : Record Value := [("b", .null), ("é", .bool true)]
    fields.Ordered ∧ Shows fields "b" (some .null) ∧ Shows fields "c" none ∧
    ∃ changed : Record Value, Gives "set" [.map fields, .string "b", .string ""] (.ok (.map changed)) ∧
      Shows changed "b" (some (.string "")) ∧ Shows changed "é" (some (.bool true)) ∧
      Gives "len" [.map changed] (.ok (.ofNat 2)) := by
  intro fields
  have hordered : fields.Ordered := List.pairwise_pair.mpr (show "b" < "é" by decide)
  have hb : Shows fields "b" (some .null) := shows_find? fields "b"
  obtain ⟨-, hset, -⟩ := entries_agree hordered
  obtain ⟨changed, -, hgives, hshown, hothers, -, hsame⟩ := hset "b" (.string "")
  exact ⟨hordered, hb, shows_find? fields "c", changed, hgives, hshown,
    (hothers "é" _ (by decide)).mpr (shows_find? fields "é"), hsame .null hb⟩

end Formula.Builtin.Maps
