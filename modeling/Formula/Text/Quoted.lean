import Formula.Unicode.Property

set_option autoImplicit false

/-!
# Quoted text

How messages show texts and characters: between quotes, with escapes for the quote, the backslash
and everything that would not be seen.
-/

namespace Formula.Text

/-- Code points without a visible form of their own: controls, formats, surrogates, private and
unassigned ones, separators other than the space, and characters that attach to the one before. -/
def invisible : CodeSet :=
  ((Unicode.categoriesWhere fun n =>
    n.startsWith "C" || n == "Zl" || n == "Zp" || n == "Zs").union Unicode.graphemeExtend).diff
    ⟨#[(0x20, 0x20)]⟩

/-- Whether a character is shown by its number. Printable ASCII is decided without the table. -/
def isInvisible (c : Char) : Bool :=
  if 0x20 ≤ c.toNat ∧ c.toNat < 0x7f then false else invisible.contains c

/-- A number in lower case hexadecimal digits. -/
def hexDigits (n : Nat) : List Char :=
  Nat.toDigits 16 n

/-- One character inside quotes. -/
def escape (quote c : Char) : List Char :=
  if c = quote ∨ c = '\\' then ['\\', c]
  else if c = '\n' then ['\\', 'n']
  else if c = '\r' then ['\\', 'r']
  else if c = '\t' then ['\\', 't']
  else if c = '\x00' then ['\\', '0']
  else if isInvisible c then "\\u\x7b".toList ++ hexDigits c.toNat ++ ['\x7d']
  else [c]

/-- A text between double quotes. -/
def quoted (s : String) : String :=
  String.ofList ('"' :: (s.toList.flatMap (escape '"') ++ ['"']))

/-- A character between single quotes. -/
def quotedChar (c : Char) : String :=
  String.ofList ('\'' :: (escape '\'' c ++ ['\'']))

end Formula.Text
