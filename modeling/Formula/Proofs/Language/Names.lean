import Formula.Language.Basic
import Formula.Proofs.Record

set_option autoImplicit false

/-!
# What names stand for

The table of a language is filled by one definition after the other, each entered under all its
names. So a name stands for the last definition that has it: the one that the last library to have
the name finds, and a library finds the last of its own.

## Main results

* `Formula.Library.find?_eq_some_iff` — a library finds its last definition with a name.
* `Formula.Language.resolve_ofLibraries` — the table finds what a search from the last library on finds.
* `Formula.Language.resolve_last` — a name stands for the last definition that has it, and the names of
  a language are those that stand for one.
-/

namespace Formula

/-! ## Libraries -/

namespace Library

variable {l : Library} {name : String}

/-- A library finds its last definition with a name. -/
lemma find?_eq_some_iff {d : Definition} : l.find? name = some d ↔
    ∃ before after, l.definitions = before ++ d :: after ∧ name ∈ d.names ∧
      ∀ later ∈ after, name ∉ later.names := by
  unfold find?
  rw [List.find?_eq_some_iff_append]
  constructor
  · rintro ⟨hd, after, before, hdefinitions, hafter⟩
    refine ⟨before.reverse, after.reverse, ?_, by simpa using hd, by simpa using hafter⟩
    simpa using congrArg List.reverse hdefinitions
  · rintro ⟨before, after, hdefinitions, hd, hafter⟩
    exact ⟨by simpa using hd, after.reverse, before.reverse, by simp [hdefinitions],
      by simpa using hafter⟩

end Library

/-! ## Tables -/

namespace Language

/-- Of a definition that is entered, all names stand for it, and no other name changes. -/
lemma find?_enter (table : Record Definition) (d : Definition) (name : String) :
    Record.find? (enter table d) name =
      if name ∈ d.names then some d else Record.find? table name := by
  unfold enter
  generalize d.names = names
  induction names generalizing table with
  | nil => simp
  | cons first rest ih =>
    rw [List.foldl_cons, ih, Record.find?_insert]
    by_cases hrest : name ∈ rest
    · simp [hrest]
    · simp [hrest, eq_comm]

/-- Of definitions that are entered in turn, the last one with a name is what it stands for. -/
lemma find?_enterAll (table : Record Definition) (definitions : List Definition) (name : String) :
    Record.find? (definitions.foldl enter table) name =
      (definitions.reverse.find? fun d => d.names.contains name).or (Record.find? table name) := by
  induction definitions generalizing table with
  | nil => rfl
  | cons d rest ih =>
    rw [List.foldl_cons, ih, find?_enter, List.reverse_cons, List.find?_append, Option.or_assoc]
    by_cases h : name ∈ d.names
    · simp [h]
    · simp [h]

/-- The table of a language finds what a search from the last library on finds. -/
lemma resolve_ofLibraries (libraries : List Library) (name : String) :
    (ofLibraries libraries).resolve name = libraries.reverse.findSome? (·.find? name) := by
  have hfold (table : Record Definition) :
      Record.find? (libraries.foldl (fun table l => l.definitions.foldl enter table) table) name =
        (libraries.reverse.findSome? (·.find? name)).or (Record.find? table name) := by
    induction libraries generalizing table with
    | nil => rfl
    | cons l rest ih =>
      rw [List.foldl_cons, ih, find?_enterAll, List.reverse_cons, List.findSome?_append,
        List.findSome?_singleton, Option.or_assoc]
      rfl
  exact (hfold []).trans (Option.or_none)

/-- The names in the table of a language are in order. -/
lemma ordered_table (libraries : List Library) : (ofLibraries libraries).table.Ordered := by
  have henter (table : Record Definition) (d : Definition) (h : table.Ordered) :
      (enter table d).Ordered :=
    List.foldlRecOn d.names _ h fun table htable name _ => htable.insert name d
  have hlibrary (table : Record Definition) (l : Library) (h : table.Ordered) :
      (l.definitions.foldl enter table).Ordered :=
    List.foldlRecOn l.definitions _ h fun table htable d _ => henter table d htable
  exact List.foldlRecOn libraries _ List.Pairwise.nil fun table htable l _ => hlibrary table l htable

/-- A name stands for what the last library to have it finds. -/
lemma resolve_eq_some_iff {libraries : List Library} {name : String} {d : Definition} :
    (ofLibraries libraries).resolve name = some d ↔
      ∃ before l after, libraries = before ++ l :: after ∧ l.find? name = some d ∧
        ∀ later ∈ after, later.find? name = none := by
  rw [resolve_ofLibraries, Record.findSome?_reverse_eq_some_iff]

/-- **The last definition of a name counts.**

1. A name stands for what the last library finds that finds anything.
2. It stands for nothing if no library finds anything.
3. A library finds its last definition that has the name, as its own or a further one.
4. The names of a language strictly increase, so none is there twice. They are those that stand for a
   definition.

**Proof sketch.** An entry takes the place of what was there under its name, so the table finds
what a search from the last library and its last definition on finds. An entry keeps the order. -/
theorem resolve_last (libraries : List Library) :
    (∀ name d, (ofLibraries libraries).resolve name = some d ↔
      ∃ before l after, libraries = before ++ l :: after ∧ l.find? name = some d ∧
        ∀ later ∈ after, later.find? name = none) ∧
    (∀ name, (ofLibraries libraries).resolve name = none ↔ ∀ l ∈ libraries, l.find? name = none) ∧
    (∀ (l : Library) name d, l.find? name = some d ↔
      ∃ before after, l.definitions = before ++ d :: after ∧ name ∈ d.name :: d.aliases ∧
        ∀ later ∈ after, name ∉ later.name :: later.aliases) ∧
    (ofLibraries libraries).names.Pairwise (· < ·) ∧ (ofLibraries libraries).names.Nodup ∧
    ∀ name, name ∈ (ofLibraries libraries).names ↔
      ∃ d, (ofLibraries libraries).resolve name = some d := by
  have hordered := Record.ordered_iff.mp (ordered_table libraries)
  refine ⟨fun _ _ => resolve_eq_some_iff, fun name => ?_, fun _ _ _ => Library.find?_eq_some_iff,
    hordered, hordered.imp fun hlt heq => ?_, fun _ => Record.mem_keys⟩
  · rw [resolve_ofLibraries, List.findSome?_eq_none_iff]
    simp only [List.mem_reverse]
  · exact String.lt_irrefl _ (heq ▸ hlt)

end Language

end Formula
