import Formula.Language.Definition

set_option autoImplicit false

/-!
# Languages

A language is a list of libraries of functions. A name stands for the last definition that has it, in
the last library that defines it.

## Main definitions

* `Formula.Library` — functions of one category.
* `Formula.Library.find?` — the function of a library with a name.
* `Formula.Language` — libraries, with the table of all their names.
* `Formula.Language.resolve`, `Formula.Language.names` — what the table says.
-/

namespace Formula

/-- Functions of one category, in the order they were added. -/
structure Library where
  category : String
  definitions : List Definition := []

namespace Library

/-- The last function that has a name, as its own or a further one. -/
def find? (l : Library) (name : String) : Option Definition :=
  l.definitions.reverse.find? fun d => d.names.contains name

/-- The library with one more function. -/
def add (l : Library) (d : Definition) : Library :=
  { l with definitions := l.definitions ++ [d] }

/-- The number of functions. -/
def size (l : Library) : Nat :=
  l.definitions.length

/-- Whether there are no functions. -/
def isEmpty (l : Library) : Bool :=
  l.definitions.isEmpty

end Library

/-- Libraries and the table of the names they define. -/
structure Language where
  libraries : List Library := []
  table : Record Definition := []

namespace Language

/-- A table with all names of a function, in place of what they stood for. -/
def enter (table : Record Definition) (d : Definition) : Record Definition :=
  d.names.foldl (fun table name => Record.insert table name d) table

/-- The language of libraries in the given order. -/
def ofLibraries (libraries : List Library) : Language where
  libraries := libraries
  table := libraries.foldl (fun table l => l.definitions.foldl enter table) []

/-- The function that a name stands for. -/
def resolve (language : Language) (name : String) : Option Definition :=
  Record.find? language.table name

/-- All names, in order. -/
def names (language : Language) : List String :=
  Record.keys language.table

end Language

end Formula
