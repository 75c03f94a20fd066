import Formula.Decimal.Reading
import Formula.Pattern.Written
import Formula.Text.Blank
import Formula.Text.Hex
import Formula.Text.Search
import Formula.Unicode.Category
import Formula.Unicode.Letters

set_option autoImplicit false

/-!
# Reading patterns

The grammar of regular expressions: letters and escapes, classes, anchors, groups with flags or names,
repetitions and choices. Backward references and conditions on what follows are not part of it.

Every step takes at least one character, so the loops are bounded by the length of the text.

## Main definitions

* `Formula.Pattern.Term.ofChars?` — the pattern that a whole text is.
-/

namespace Formula.Pattern

/-- What is left of a pattern, and what is known about the part before. -/
structure Source where
  rest : List Char
  /-- Whether blanks and comments are passed over. -/
  verbose : Bool
  /-- The names of groups. -/
  names : List String

/-- A step that reads part of a pattern. -/
abbrev Reader (α : Type) := StateT Source Option α

namespace Reader

/-! ## Characters -/

/-- The text without blanks and comments in front. A comment reaches to the end of its line. -/
def withoutComments : (fuel : Nat) → List Char → List Char
  | 0, cs => cs
  | _ + 1, [] => []
  | fuel + 1, c :: cs =>
    if Text.isBlank c then withoutComments fuel cs
    else if c = '#' then withoutComments fuel ((cs.dropWhile fun c => c != '\n').drop 1)
    else c :: cs

/-- What is left of the text. -/
def rest : Reader (List Char) := do
  return (← get).rest

/-- Goes on with the given text. -/
def goto (cs : List Char) : Reader Unit :=
  modify fun s => { s with rest := cs }

/-- Passes over blanks and comments where that is asked for. -/
def skip : Reader Unit :=
  modify fun s =>
    if s.verbose then { s with rest := withoutComments (s.rest.length + 1) s.rest } else s

/-- The next character, which stays. -/
def peek : Reader Char := do
  match ← rest with
  | [] => failure
  | c :: _ => return c

/-- Takes the next character. -/
def next : Reader Char := do
  match ← rest with
  | [] => failure
  | c :: cs => goto cs; return c

/-- Takes the next character and the blanks and comments after it. -/
def nextSkip : Reader Char := do
  let c ← next
  skip
  return c

/-- Takes a given text if it comes next. -/
def accept (cs : List Char) : Reader Bool := do
  match Text.dropStart? cs (← rest) with
  | some more => goto more; return true
  | none => return false

/-- The next character after the first, past blanks and one comment mark where they are passed
over. -/
def second? : Reader (Option Char) := do
  let s ← get
  let more := s.rest.drop 1
  if s.verbose then
    match more.dropWhile Text.isBlank with
    | '#' :: more => return (more.dropWhile Text.isBlank).head?
    | more => return more.head?
  else return more.head?

/-- Takes characters of a class, past blanks and comments, and leaves what follows them. -/
def takeSkip (p : Char → Bool) : (fuel : Nat) → Reader (List Char)
  | 0 => return []
  | fuel + 1 => do
    match ← rest with
    | c :: _ =>
      if p c then
        let _ ← nextSkip
        return c :: (← takeSkip p fuel)
      else return []
    | [] => return []

/-! ## Escapes -/

/-- Characters that have a meaning of their own in patterns. -/
def isMeta (c : Char) : Bool :=
  "\\.+*?()|[]\x7b\x7d^$#&-~".toList.contains c

/-- Characters that an escape leaves as they are. -/
def isEscapable (c : Char) : Bool :=
  isMeta c || (decide (c.toNat < 128) && !c.isAlphanum && c != '<' && c != '>')

/-- The character of a run of hexadecimal digits: a fixed number of them, or any number in braces. -/
def hexLetter (digits : Nat) : Reader Letter := do
  skip
  let fuel := (← rest).length
  if ← accept ['\x7b'] then
    skip
    let ds ← takeSkip Text.isHexDigit fuel
    let close ← nextSkip
    if close = '\x7d' ∧ ds ≠ [] then
      match Text.charOf? (Text.hexNumber ds) with
      | some c => return ⟨c, false⟩
      | none => failure
    else failure
  else
    let ds ← (List.range digits).mapM fun i => do
      if 0 < i then skip
      let c ← next
      if Text.isHexDigit c then return c else failure
    skip
    match Text.charOf? (Text.hexNumber ds) with
    | some c => return ⟨c, digits == 2⟩
    | none => failure

/-- The name of a Unicode class, split at the sign between a property and its value. -/
def className (cs : List Char) : ClassName :=
  let name (cs : List Char) := String.ofList cs
  match Text.cut? ['!', '='] cs, Text.cut? [':'] cs, Text.cut? ['='] cs with
  | some (p, v), _, _ => ⟨some (name p), name v⟩
  | none, some (p, v), _ => ⟨some (name p), name v⟩
  | none, none, some (p, v) => ⟨some (name p), name v⟩
  | none, none, none => ⟨none, name cs⟩

/-- A class of Unicode: one letter, or a name in braces. -/
def namedClass (negated : Bool) : Reader Term := do
  skip
  let fuel := (← rest).length
  if ← accept ['\x7b'] then
    skip
    let cs ← takeSkip (fun c => c != '\x7d') fuel
    let _ ← next
    return .named (className cs) negated
  else
    let c ← nextSkip
    if c = '\\' then failure
    return .named ⟨none, c.toString⟩ negated

/-- The kinds of word boundaries that are named in braces. -/
def edgeNamed? (name : List Char) : Option Anchor :=
  if name = "start".toList then some .wordStart
  else if name = "end".toList then some .wordEnd
  else if name = "start-half".toList then some .wordStartHalf
  else if name = "end-half".toList then some .wordEndHalf
  else none

/-- A word boundary, perhaps with its kind in braces. What does not look like a kind is left for a
repetition. -/
def wordEdge : Reader Term := do
  let before ← get
  if ← accept ['\x7b'] then
    skip
    let isNameChar (c : Char) : Bool := c.isAlpha || c == '-'
    if isNameChar (← peek) then
      let name ← takeSkip isNameChar before.rest.length
      let close ← next
      match edgeNamed? name with
      | some a => if close = '\x7d' then return .anchor a else failure
      | none => failure
    else
      set before
      return .anchor .wordEdge
  else return .anchor .wordEdge

/-- What an escape stands for, behind its backslash. -/
def escape : Reader Term := do
  let letter (c : Char) : Term := .letter ⟨c, false⟩
  let c ← next
  match c with
  | 'x' => return .letter (← hexLetter 2)
  | 'u' => return .letter (← hexLetter 4)
  | 'U' => return .letter (← hexLetter 8)
  | 'p' => namedClass false
  | 'P' => namedClass true
  | 'd' => return .short .digit false
  | 'D' => return .short .digit true
  | 's' => return .short .space false
  | 'S' => return .short .space true
  | 'w' => return .short .word false
  | 'W' => return .short .word true
  | 'a' => return letter '\x07'
  | 'f' => return letter '\x0c'
  | 't' => return letter '\t'
  | 'n' => return letter '\n'
  | 'r' => return letter '\r'
  | 'v' => return letter '\x0b'
  | 'A' => return .anchor .textStart
  | 'z' => return .anchor .textEnd
  | 'b' => wordEdge
  | 'B' => return .anchor .noWordEdge
  | '<' => return .anchor .wordStart
  | '>' => return .anchor .wordEnd
  | c => if isEscapable c then return letter c else failure

/-! ## Bracketed classes -/

/-- The classes of ASCII that are written as `[:name:]`. -/
def asciiClass? (name : List Char) : Option (List (Nat × Nat)) :=
  match String.ofList name with
  | "alnum" => some [(48, 57), (65, 90), (97, 122)]
  | "alpha" => some [(65, 90), (97, 122)]
  | "ascii" => some [(0, 127)]
  | "blank" => some [(9, 9), (32, 32)]
  | "cntrl" => some [(0, 31), (127, 127)]
  | "digit" => some [(48, 57)]
  | "graph" => some [(33, 126)]
  | "lower" => some [(97, 122)]
  | "print" => some [(32, 126)]
  | "punct" => some [(33, 47), (58, 64), (91, 96), (123, 126)]
  | "space" => some [(9, 13), (32, 32)]
  | "upper" => some [(65, 90)]
  | "word" => some [(48, 57), (65, 90), (95, 95), (97, 122)]
  | "xdigit" => some [(48, 57), (65, 70), (97, 102)]
  | _ => none

/-- A class such as `[:alpha:]`, and the text after it. -/
def asciiTerm? (cs : List Char) : Option (ClassTerm × List Char) := do
  let more ← Text.dropStart? ['[', ':'] cs
  let (negated, more) := match more with
    | '^' :: more => (true, more)
    | more => (false, more)
  let name := more.takeWhile fun c => c != ':'
  let more ← Text.dropStart? [':', ']'] (more.drop name.length)
  let ranges ← asciiClass? name
  some (.ascii ranges negated, more)

/-- One character or escape in a bracketed class. -/
def classLetter : Reader Term := do
  let c ← next
  if c = '\\' then escape else return .letter ⟨c, false⟩

/-- An escape as an item of a class; anchors are none. -/
def toItem (t : Term) : Reader ClassTerm :=
  match t with
  | .letter l => return .letter l
  | .short c negated => return .short c negated
  | .named c negated => return .named c negated
  | _ => failure

/-- A letter, an escape or a range in a bracketed class. A hyphen before the end of the class or
before another hyphen makes no range. -/
def classRange : Reader ClassTerm := do
  let first ← classLetter
  skip
  let c ← peek
  let after ← second?
  if c ≠ '-' ∨ after = some ']' ∨ after = some '-' then toItem first
  else
    let _ ← nextSkip
    let last ← classLetter
    match first, last with
    | .letter a, .letter b =>
      if a.char ≤ b.char then return .range a b else failure
    | _, _ => failure

/-- A class with an operation that waits for its right side. -/
def finish (pending : Option (ClassOperation × ClassTerm)) (items : List ClassTerm) : ClassTerm :=
  let right := ClassTerm.ofItems items.reverse
  match pending with
  | none => right
  | some (operation, left) => .combined operation left right

/-- Takes hyphens, which are literal at the start of a class. -/
def hyphens : (fuel : Nat) → Reader (List ClassTerm)
  | 0 => return []
  | fuel + 1 => do
    if ← accept ['-'] then
      skip
      return .letter ⟨'-', false⟩ :: (← hyphens fuel)
    else return []

/-- The start of a bracketed class behind its bracket: whether it is negated, and the hyphens or the
closing bracket that are literal there. -/
def classStart : Reader (Bool × List ClassTerm) := do
  skip
  let negated ← accept ['^']
  if negated then skip
  let items ← hyphens (← rest).length
  let c ← peek
  if items.isEmpty ∧ c = ']' then
    let _ ← nextSkip
    let _ ← peek
    return (negated, [.letter ⟨']', false⟩])
  else return (negated, items)

/-- The rest of a bracketed class up to its closing bracket. The items read so far are in reverse. -/
def classRest (fuel : Nat) (pending : Option (ClassOperation × ClassTerm))
    (items : List ClassTerm) : Reader ClassTerm :=
  match fuel with
  | 0 => failure
  | fuel + 1 => do
    skip
    match ← rest with
    | [] => failure
    | ']' :: more =>
      goto more
      return finish pending items
    | '&' :: '&' :: more =>
      goto more
      classRest fuel (some (.inter, finish pending items)) []
    | '-' :: '-' :: more =>
      goto more
      classRest fuel (some (.diff, finish pending items)) []
    | '~' :: '~' :: more =>
      goto more
      classRest fuel (some (.symmDiff, finish pending items)) []
    | '[' :: more =>
      match asciiTerm? ('[' :: more) with
      | some (item, more) =>
        goto more
        classRest fuel pending (item :: items)
      | none =>
        goto more
        let (negated, start) ← classStart
        let inner ← classRest fuel none start
        classRest fuel pending (.bracketed negated inner :: items)
    | _ =>
      let item ← classRange
      classRest fuel pending (item :: items)

/-- A bracketed class behind its opening bracket. -/
def bracketed : Reader Term := do
  let (negated, start) ← classStart
  let inner ← classRest ((← rest).length + 1) none start
  return .bracketed negated inner

/-! ## Repetitions -/

/-- A number between blanks, which has to fit in 32 bits. -/
def count? : Reader (Option Nat) := do
  goto ((← rest).dropWhile Text.isBlank)
  let digits ← takeSkip Char.isDigit (← rest).length
  let _ ← takeSkip Text.isBlank (← rest).length
  let n := Decimal.ofDigitChars digits
  if digits = [] then return none
  else if n < 0x100000000 then return some n
  else failure

/-- The bounds of a counted repetition behind its opening brace. -/
def bounds : Reader (Nat × Option Nat) := do
  skip
  let _ ← peek
  let least ← count?
  let c ← peek
  let (least, most) ← match least with
    | none => failure
    | some least =>
      if c = ',' then
        let _ ← nextSkip
        if (← peek) = '\x7d' then pure (least, none)
        else match ← count? with
          | some most => pure (least, some most)
          | none => failure
      else pure (least, some least)
  let close ← nextSkip
  if close = '\x7d' ∧ most.all (fun m => decide (least ≤ m)) then
    let _ ← accept ['?']
    return (least, most)
  else failure

/-- The last part repeated. Flags and nothing at all cannot be repeated. -/
def repeatLast (parts : List Term) (least : Nat) (most : Option Nat) : Reader (List Term) :=
  match parts with
  | [] => failure
  | .flags _ :: _ => failure
  | last :: parts => return .repeated last least most :: parts

/-! ## Groups -/

/-- The flag with a letter. -/
def flag? (c : Char) : Option Flag :=
  match c with
  | 'i' => some .ignoreCase
  | 'm' => some .multiLine
  | 's' => some .dotAll
  | 'U' => some .swapGreed
  | 'u' => some .unicode
  | 'R' => some .crlf
  | 'x' => some .verbose
  | _ => none

/-- Flags up to a colon or a closing parenthesis. Those after a hyphen are switched off; a flag or a
hyphen must not be repeated, and a hyphen has to be followed by a flag. -/
def flagChanges : (on : Bool) → List Char → Option (FlagChanges × List Char)
  | _, [] => none
  | on, c :: rest =>
    if c = ':' ∨ c = ')' then some ([], c :: rest)
    else if c = '-' then
      match rest with
      | d :: _ => if on ∧ d ≠ ':' ∧ d ≠ ')' then flagChanges false rest else none
      | [] => none
    else
      match flag? c, flagChanges on rest with
      | some f, some (changes, rest) =>
        if changes.any fun change => change.1 == f then none
        else some ((f, on) :: changes, rest)
      | _, _ => none

/-- Whether a character may stand in the name of a group. -/
def isNameChar (first : Bool) (c : Char) : Bool :=
  c == '_' || Unicode.alphabetic.contains c ||
    (!first && (c == '.' || c == '[' || c == ']' ||
      (Unicode.categoriesWhere fun n => n.startsWith "N").contains c))

/-- The name of a group up to its closing angle bracket. No two groups have the same name. -/
def groupName : Reader Unit := do
  let cs ← rest
  let name := cs.takeWhile fun c => c != '>'
  let text := String.ofList name
  let s ← get
  match name with
  | [] => failure
  | c :: more =>
    if isNameChar true c && more.all (isNameChar false) && !s.names.contains text then
      set { s with rest := cs.drop name.length, names := text :: s.names }
      let _ ← next
    else failure

/-- The start of a group behind its parenthesis. -/
inductive GroupStart where
  /-- Flags alone, without a group. -/
  | flags (changes : FlagChanges)
  | group (capturing : Bool) (changes : FlagChanges)

/-- Reads the start of a group behind its parenthesis. -/
def groupStart : Reader GroupStart := do
  skip
  let cs ← rest
  let looks := ["?=", "?!", "?<=", "?<!"].any fun s => Text.startsWith s.toList cs
  if looks then failure
  else if ← accept "?P<".toList then
    groupName
    return .group true []
  else if ← accept "?<".toList then
    groupName
    return .group true []
  else if ← accept ['?'] then
    match flagChanges true (← rest) with
    | none => failure
    | some (changes, more) =>
      goto more
      let close ← next
      if close = ':' then return .group false changes
      else if changes.isEmpty then failure
      else return .flags changes
  else return .group true []

/-- Whether blanks and comments are passed over after a change of flags. -/
def verboseAfter (changes : FlagChanges) (before : Bool) : Bool :=
  match changes.find? fun change => change.1 == .verbose with
  | some (_, on) => on
  | none => before

/-! ## Patterns -/

/-- The choices up to a closing parenthesis or the end. The parts of the present choice and the
choices before it are in reverse. -/
def choices (fuel : Nat) (parts before : List Term) : Reader Term :=
  match fuel with
  | 0 => failure
  | fuel + 1 => do
    skip
    let done := Term.ofChoices (Term.ofParts parts.reverse :: before).reverse
    match ← rest with
    | [] => return done
    | ')' :: _ => return done
    | '|' :: more =>
      goto more
      choices fuel [] (Term.ofParts parts.reverse :: before)
    | '(' :: more =>
      goto more
      let outer := (← get).verbose
      match ← groupStart with
      | .flags changes =>
        modify fun s => { s with verbose := verboseAfter changes outer }
        choices fuel (.flags changes :: parts) before
      | .group capturing changes =>
        modify fun s => { s with verbose := verboseAfter changes outer }
        let inner ← choices fuel [] []
        modify fun s => { s with verbose := outer }
        let close ← next
        if close = ')' then choices fuel (.group capturing changes inner :: parts) before
        else failure
    | '[' :: more =>
      goto more
      let t ← bracketed
      choices fuel (t :: parts) before
    | '?' :: more =>
      goto more
      let _ ← accept ['?']
      choices fuel (← repeatLast parts 0 (some 1)) before
    | '*' :: more =>
      goto more
      let _ ← accept ['?']
      choices fuel (← repeatLast parts 0 none) before
    | '+' :: more =>
      goto more
      let _ ← accept ['?']
      choices fuel (← repeatLast parts 1 none) before
    | '\x7b' :: more =>
      goto more
      let (least, most) ← bounds
      choices fuel (← repeatLast parts least most) before
    | '\\' :: more =>
      goto more
      let t ← escape
      choices fuel (t :: parts) before
    | '.' :: more =>
      goto more
      choices fuel (.dot :: parts) before
    | '^' :: more =>
      goto more
      choices fuel (.anchor .caret :: parts) before
    | '$' :: more =>
      goto more
      choices fuel (.anchor .dollar :: parts) before
    | c :: more =>
      goto more
      choices fuel (.letter ⟨c, false⟩ :: parts) before

end Reader

/-- The pattern that a whole text is. -/
def Term.ofChars? (cs : List Char) : Option Term :=
  match (Reader.choices (cs.length + 1) [] []).run ⟨cs, false, []⟩ with
  | some (t, s) => if s.rest = [] then some t else none
  | none => none

end Formula.Pattern
