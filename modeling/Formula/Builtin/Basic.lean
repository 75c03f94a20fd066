import Formula.Builtin.Documents
import Formula.Builtin.General
import Formula.Builtin.Lists
import Formula.Builtin.Maps
import Formula.Builtin.Numbers
import Formula.Builtin.Texts
import Formula.Builtin.Times

set_option autoImplicit false

/-!
# The functions that come with the language

## Main definitions

* `Formula.Builtin.libraries` — all libraries, in the order in which they are added.
* `Formula.Language.builtin` — the language of these libraries and further ones.
-/

namespace Formula

/-- All libraries, in the order in which they are added. -/
def Builtin.libraries : List Library :=
  [General.library, Texts.library, Documents.library, Numbers.library, Times.library, Lists.library,
    Maps.library]

/-- The language of all these libraries and further ones behind them. -/
def Language.builtin (further : List Library) : Language :=
  .ofLibraries (Builtin.libraries ++ further)

end Formula
