import Formula.Decimal.Reading
import Formula.SyntaxError
import Formula.Text.Blank
import Formula.Text.Hex

set_option autoImplicit false

/-!
# From text to tokens

The text is read from the left; every token is the longest one that starts where the last one stopped,
after blanks. Each scanner returns the text that it leaves, and `Formula.Lexer.length_scan` says that
this is never more than it was given, so the text is used up.

## Main definitions

* `Formula.Lexer.scan` — the token that starts with a given character.
* `Formula.Lexeme.ofChars` — the tokens of a text, and where the text ends.
-/

namespace Formula

namespace Lexer

/-! ## Symbols and words -/

/-- The longest symbol that starts with `c`, and whether it takes the next character too. -/
def symbol? (c : Char) (next : Option Char) : Option (Symbol × Bool) :=
  match c, next with
  | '(', _ => some (.leftParen, false)
  | ')', _ => some (.rightParen, false)
  | '[', _ => some (.leftBracket, false)
  | ']', _ => some (.rightBracket, false)
  | '\x7b', _ => some (.leftBrace, false)
  | '\x7d', _ => some (.rightBrace, false)
  | ',', _ => some (.comma, false)
  | ':', _ => some (.colon, false)
  | '.', _ => some (.dot, false)
  | '+', _ => some (.plus, false)
  | '-', _ => some (.minus, false)
  | '/', _ => some (.slash, false)
  | '%', _ => some (.percent, false)
  | '^', _ => some (.bitXor, false)
  | '~', _ => some (.bitNot, false)
  | '*', some '*' => some (.starStar, true)
  | '*', _ => some (.star, false)
  | '?', some '?' => some (.coalesce, true)
  | '?', _ => some (.question, false)
  | '=', some '=' => some (.equal, true)
  | '=', some '~' => some (.isMatch, true)
  | '!', some '=' => some (.notEqual, true)
  | '!', some '~' => some (.isNotMatch, true)
  | '!', _ => some (.not, false)
  | '<', some '=' => some (.lessEqual, true)
  | '<', some '<' => some (.shiftLeft, true)
  | '<', _ => some (.less, false)
  | '>', some '=' => some (.greaterEqual, true)
  | '>', some '>' => some (.shiftRight, true)
  | '>', _ => some (.greater, false)
  | '&', some '&' => some (.and, true)
  | '&', _ => some (.bitAnd, false)
  | '|', some '|' => some (.or, true)
  | '|', _ => some (.bitOr, false)
  | _, _ => none

/-- Characters that a word may start with. -/
def isWordStart (c : Char) : Bool :=
  c == '_' || c.isAlpha

/-- Characters that a word may go on with. -/
def isWordChar (c : Char) : Bool :=
  c == '_' || c.isAlphanum

/-- A word: a keyword or an identifier. -/
def word (cs : List Char) : Token :=
  let name := String.ofList cs
  if name = "true" then .symbol .wordTrue
  else if name = "false" then .symbol .wordFalse
  else if name = "null" ∨ name = "nil" then .symbol .wordNull
  else if name = "in" then .symbol .wordIn
  else .identifier name

/-! ## Numbers -/

/-- The characters of an exponent part at the start of a text, or the characters that are one only
in part. -/
def exponentChars (cs : List Char) : Except (List Char) (List Char) :=
  match cs with
  | [] => .ok []
  | e :: rest =>
    if e = 'e' ∨ e = 'E' then
      let sign := rest.take 1 |>.filter fun c => c == '+' || c == '-'
      let digits := (rest.drop sign.length).takeWhile Char.isDigit
      if digits = [] then .error (e :: sign) else .ok (e :: (sign ++ digits))
    else .ok []

/-- The characters of a decimal number that starts a text, or the characters that are one only in
part. A point belongs to the number if a digit follows; a letter must not follow. -/
def decimalChars (cs : List Char) : Except (List Char) (List Char) :=
  let whole := cs.takeWhile Char.isDigit
  let rest := cs.dropWhile Char.isDigit
  let places := match rest with
    | '.' :: c :: more => if c.isDigit then '.' :: (c :: more).takeWhile Char.isDigit else []
    | _ => []
  match exponentChars (rest.drop places.length) with
  | .error cut => .error (whole ++ places ++ cut)
  | .ok exponent =>
    let all := whole ++ places ++ exponent
    match cs.drop all.length with
    | [] => .ok all
    | c :: _ => if isWordStart c then .error (all ++ [c]) else .ok all

/-- A decimal number that starts a text, and how many characters it has. -/
def decimal (pos : Nat) (cs : List Char) : Except SyntaxError (Token × Nat) :=
  match decimalChars cs with
  | .error cut => .error (.invalidNumber (String.ofList cut) pos)
  | .ok all =>
    match Double.ofChars? all with
    | some x => .ok (.number x, all.length)
    | none => .error (.invalidNumber (String.ofList all) pos)

/-- A hexadecimal number behind the given two characters, and how many characters it has with them.
It has to fit in 64 bits. -/
def hexadecimal (pos : Nat) (mark : List Char) (cs : List Char) :
    Except SyntaxError (Token × Nat) :=
  let digits := cs.takeWhile Text.isHexDigit
  let n := Text.hexNumber digits
  if digits = [] ∨ 0x10000000000000000 ≤ n then
    .error (.invalidNumber (String.ofList (mark ++ digits)) pos)
  else .ok (.number (Double.ofNat n), mark.length + digits.length)

/-- A number that starts with the digit `c`, and how many characters follow that digit. -/
def number (pos : Nat) (c : Char) (rest : List Char) : Except SyntaxError (Token × Nat) := do
  let (token, count) ← match rest with
    | x :: digits =>
      if c = '0' ∧ (x = 'x' ∨ x = 'X') then hexadecimal pos [c, x] digits
      else decimal pos (c :: rest)
    | [] => decimal pos [c]
  .ok (token, count - 1)

/-! ## Texts -/

/-- The character of `\u` followed by four hexadecimal digits, or any number of them in braces, and
how many characters they are. -/
def unicodeEscape? (cs : List Char) : Option (Char × Nat) :=
  match cs with
  | '\x7b' :: cs =>
    let digits := cs.takeWhile Text.isHexDigit
    match cs.drop digits.length with
    | '\x7d' :: _ =>
      if digits = [] then none
      else (Text.charOf? (Text.hexNumber digits)).map fun c => (c, digits.length + 2)
    | _ => none
  | cs =>
    let digits := cs.take 4
    if digits.length = 4 ∧ digits.all Text.isHexDigit then
      (Text.charOf? (Text.hexNumber digits)).map fun c => (c, 4)
    else none

/-- The character of an escape with the letter `c`, and how many further characters it takes. -/
def escape? (c : Char) (rest : List Char) : Option (Char × Nat) :=
  match c with
  | 'n' => some ('\n', 0)
  | 't' => some ('\t', 0)
  | 'r' => some ('\r', 0)
  | '0' => some ('\x00', 0)
  | '\\' => some ('\\', 0)
  | '"' => some ('"', 0)
  | '\'' => some ('\'', 0)
  | '/' => some ('/', 0)
  | 'u' => unicodeEscape? rest
  | _ => none

/-- The characters up to the closing quote, where it stops, and the text after it. `start` is where
the opening quote stands and `pos` where the given text starts. All characters of an escape are
single bytes. -/
def quotedTail (quote : Char) (start pos : Nat) (cs : List Char) :
    Except SyntaxError (List Char × Nat × List Char) :=
  match cs with
  | [] => .error (.unclosedString start)
  | c :: rest =>
    if c = quote then .ok ([], pos + c.utf8Size, rest)
    else if c = '\\' then
      match rest with
      | [] => .error (.unclosedString start)
      | e :: more =>
        match escape? e more with
        | none => .error (.invalidEscape pos)
        | some (d, n) =>
          match quotedTail quote start (pos + 2 + n) (more.drop n) with
          | .error e => .error e
          | .ok (cs, stop, left) => .ok (d :: cs, stop, left)
    else
      match quotedTail quote start (pos + c.utf8Size) rest with
      | .error e => .error e
      | .ok (cs, stop, left) => .ok (c :: cs, stop, left)
termination_by cs.length
decreasing_by all_goals simp only [List.length_drop, List.length_cons]; omega

/-- The quote of texts without escapes. -/
def rawQuote : Char := '\x60'

/-- The characters up to the closing raw quote, where it stops, and the text after it. -/
def rawTail (start pos : Nat) : List Char → Except SyntaxError (List Char × Nat × List Char)
  | [] => .error (.unclosedString start)
  | c :: rest =>
    if c = rawQuote then .ok ([], pos + c.utf8Size, rest)
    else
      match rawTail start (pos + c.utf8Size) rest with
      | .error e => .error e
      | .ok (cs, stop, left) => .ok (c :: cs, stop, left)

/-! ## Tokens -/

/-- The token at `pos` that starts with `c`, where it stops, and the text after it. -/
def scan (pos : Nat) (c : Char) (rest : List Char) :
    Except SyntaxError (Token × Nat × List Char) :=
  if c = '"' ∨ c = '\'' then
    match quotedTail c pos (pos + 1) rest with
    | .error e => .error e
    | .ok (cs, stop, left) => .ok (.string (String.ofList cs), stop, left)
  else if c = rawQuote then
    match rawTail pos (pos + 1) rest with
    | .error e => .error e
    | .ok (cs, stop, left) => .ok (.string (String.ofList cs), stop, left)
  else if c.isDigit then
    match number pos c rest with
    | .error e => .error e
    | .ok (token, count) => .ok (token, pos + 1 + count, rest.drop count)
  else if isWordStart c then
    let more := rest.takeWhile isWordChar
    .ok (word (c :: more), pos + 1 + more.length, rest.drop more.length)
  else
    match symbol? c rest.head? with
    | some (s, true) => .ok (.symbol s, pos + 2, rest.drop 1)
    | some (s, false) => .ok (.symbol s, pos + 1, rest)
    | none => .error (.unexpectedChar c pos)

/-- What is left behind a quoted text is no longer than the text. -/
theorem length_quotedTail {quote : Char} {start pos : Nat} {cs out left : List Char} {stop : Nat}
    (h : quotedTail quote start pos cs = .ok (out, stop, left)) : left.length ≤ cs.length := by
  fun_induction quotedTail quote start pos cs generalizing out stop left
  all_goals simp_all
  all_goals grind

/-- What is left behind a raw text is no longer than the text. -/
theorem length_rawTail {start pos : Nat} {cs out left : List Char} {stop : Nat}
    (h : rawTail start pos cs = .ok (out, stop, left)) : left.length ≤ cs.length := by
  fun_induction rawTail start pos cs generalizing out stop left
  all_goals simp_all
  all_goals grind

/-- A token leaves no more than the text behind its first character. -/
theorem length_scan {pos : Nat} {c : Char} {rest left : List Char} {token : Token} {stop : Nat}
    (h : scan pos c rest = .ok (token, stop, left)) : left.length ≤ rest.length := by
  unfold scan at h
  split at h
  · split at h
    · simp at h
    · next he => simp only [Except.ok.injEq, Prod.mk.injEq] at h; grind [length_quotedTail he]
  split at h
  · split at h
    · simp at h
    · next he => simp only [Except.ok.injEq, Prod.mk.injEq] at h; grind [length_rawTail he]
  split at h
  · split at h
    · simp at h
    · simp only [Except.ok.injEq, Prod.mk.injEq] at h; grind
  split at h
  · simp only [Except.ok.injEq, Prod.mk.injEq] at h; grind
  split at h <;> simp only [Except.ok.injEq, Prod.mk.injEq, reduceCtorEq] at h <;> grind

end Lexer

/-- The tokens of a text that starts at `pos`, and where the text ends. -/
def Lexeme.ofCharsFrom (pos : Nat) (cs : List Char) : Except SyntaxError (List Lexeme × Nat) :=
  match cs with
  | [] => .ok ([], pos)
  | c :: rest =>
    if Text.isBlank c then ofCharsFrom (pos + c.utf8Size) rest
    else
      match _h : Lexer.scan pos c rest with
      | .error e => .error e
      | .ok (token, stop, left) =>
        match ofCharsFrom stop left with
        | .error e => .error e
        | .ok (lexemes, last) => .ok (⟨token, pos, stop⟩ :: lexemes, last)
termination_by cs.length
decreasing_by
  · simp
  · exact Nat.lt_succ_of_le (Lexer.length_scan _h)

/-- The tokens of a text, and where the text ends. -/
def Lexeme.ofChars (cs : List Char) : Except SyntaxError (List Lexeme × Nat) :=
  ofCharsFrom 0 cs

end Formula
