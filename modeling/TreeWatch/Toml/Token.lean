/-
This file reads the smallest parts of a TOML document: blanks and comments, keys
and strings. Every reader takes what it wants from the front of the
text and leaves the rest, or fails; there is no second try, so a document is either
read or not.
-/

namespace TreeWatch.Toml

/-- Reads something at the front of a text and leaves what follows it. -/
abbrev Scan := StateT (List Char) Option

namespace Scan

def fail {α : Type} : Scan α := fun _ => none

/-- The next character, which stays in the text. -/
def peek? : Scan (Option Char) := fun text => some (text.head?, text)

/-- Takes one character of a class. -/
def one (wanted : Char → Bool) : Scan Char := fun text =>
  match text with
  | char :: rest => if wanted char then some (char, rest) else none
  | [] => none

def char (wanted : Char) : Scan Unit := discard (one (· == wanted))

/-- Takes as many characters of a class as there are. -/
def many (wanted : Char → Bool) : Scan (List Char) := fun text =>
  some (text.takeWhile wanted, text.dropWhile wanted)

/-- Takes a given word if it is there, and says whether it was. -/
def word? (wanted : List Char) : Scan Bool := fun text =>
  if wanted.isPrefixOf text then some (true, text.drop wanted.length) else some (false, text)

/-! ### Blanks, comments and line ends -/

def isBlank (char : Char) : Bool := char == ' ' || char == '\t'

def blanks : Scan Unit := discard (many isBlank)

/-- The characters a comment may hold: no controls but the tab. -/
def isComment (char : Char) : Bool :=
  char == '\t' || (0x20 ≤ char.toNat && char.toNat != 0x7f)

/-- Takes a line end if there is one. A carriage return alone is none. -/
def lineEnd? : Scan Bool := fun text =>
  match text with
  | '\n' :: rest => some (true, rest)
  | '\r' :: '\n' :: rest => some (true, rest)
  | _ => some (false, text)

/-- Takes a comment if there is one. -/
def comment? : Scan Unit := do
  if ← word? ['#'] then discard (many isComment)

/-- Takes what may follow on a line after its content, and the line end. -/
def restOfLine : Scan Unit := do
  blanks
  comment?
  if ← lineEnd? then pure ()
  else if (← peek?).isSome then fail

/-- Takes blanks, line ends and comments, the latter to the ends of their lines. Each
round takes a character, so the length of the text bounds their number. -/
def blankLines : Nat → Scan Unit
  | 0 => pure ()
  | fuel + 1 => do
    blanks
    match ← peek? with
    | some '#' =>
      comment?
      if ← lineEnd? then blankLines fuel else fail
    | _ => if ← lineEnd? then blankLines fuel

/-- Takes blanks, line ends and comments. -/
def betweenItems : Scan Unit := do
  let text ← get
  blankLines (text.length + 1)

/-! ### Strings -/

/-- The value of a hexadecimal digit. -/
def hexValue? (char : Char) : Option Nat :=
  if '0' ≤ char ∧ char ≤ '9' then some (char.toNat - '0'.toNat)
  else if 'a' ≤ char ∧ char ≤ 'f' then some (char.toNat - 'a'.toNat + 10)
  else if 'A' ≤ char ∧ char ≤ 'F' then some (char.toNat - 'A'.toNat + 10)
  else none

/-- The character whose code has the given number of hexadecimal digits. -/
def code : Nat → Nat → Scan Char
  | 0, value => if value.isValidChar then pure (Char.ofNat value) else fail
  | digits + 1, value => do
    let char ← one fun char => (hexValue? char).isSome
    code digits (value * 16 + (hexValue? char).getD 0)

/-- What follows a backslash. -/
def escape : Scan Char := do
  match ← one fun _ => true with
  | 'b' => pure '\x08'
  | 'f' => pure '\x0c'
  | 'n' => pure '\n'
  | 'r' => pure '\r'
  | 't' => pure '\t'
  | '"' => pure '"'
  | '\\' => pure '\\'
  | 'u' => code 4 0
  | 'U' => code 8 0
  | _ => fail

/-- The characters that stand for themselves in a string with escapes. -/
def isPlain (char : Char) : Bool := isComment char && char != '"' && char != '\\'

/-- The characters that stand for themselves in a string without escapes. -/
def isLiteral (char : Char) : Bool := isComment char && char != '\''

/-- Reads a string with escapes after its opening quote. -/
def basic : Nat → List Char → Scan String
  | 0, _ => fail
  | fuel + 1, before => do
    match ← one fun _ => true with
    | '"' => pure (String.ofList before.reverse)
    | '\\' => do
      let char ← escape
      basic fuel (char :: before)
    | char => if isPlain char then basic fuel (char :: before) else fail

/-- Reads a string without escapes after its opening quote. -/
def literal : Scan String := do
  let content ← many isLiteral
  char '\''
  pure (String.ofList content)

/-- Takes blanks and line ends. Each round takes a character, so the length of the
text bounds their number. -/
def emptyLines : Nat → Scan Unit
  | 0 => pure ()
  | fuel + 1 => do
    blanks
    if ← lineEnd? then emptyLines fuel

/-- Takes a line end that a backslash hides, with the blanks around it and all that
is blank on the next lines; says whether there was one. -/
def hiddenLineEnd? : Scan Bool := fun text =>
  match lineEnd? (text.dropWhile isBlank) with
  | some (true, rest) => (emptyLines (rest.length + 1) rest).map fun taken => (true, taken.2)
  | _ => some (false, text)

/-- Reads a string over several lines after its opening quotes. Up to two quotes in
a row belong to it; three close it, and may be preceded by two that belong to it. -/
def multiline (quote : Char) (escapes : Bool) : Nat → List Char → Scan String
  | 0, _ => fail
  | fuel + 1, before => do
    if ← lineEnd? then multiline quote escapes fuel ('\n' :: before)
    else
      let quotes ← many (· == quote)
      if 3 ≤ quotes.length then
        if quotes.length ≤ 5 then
          pure (String.ofList (before.reverse ++ quotes.drop 3))
        else fail
      else if !quotes.isEmpty then multiline quote escapes fuel (quotes ++ before)
      else
        let char ← one isComment
        if escapes && char == '\\' then
          if ← hiddenLineEnd? then multiline quote escapes fuel before
          else
            let meant ← escape
            multiline quote escapes fuel (meant :: before)
        else multiline quote escapes fuel (char :: before)

/-- Reads a string of one line, whose opening quote is next. -/
def shortString : Scan String := do
  if ← word? ['\''] then literal
  else
    char '"'
    let text ← get
    basic (text.length + 1) []

/-- Reads a string of any form, whose opening quotes are next. -/
def string : Scan String := do
  let text ← get
  if ← word? ['"', '"', '"'] then
    let _ ← lineEnd?
    multiline '"' true (text.length + 1) []
  else if ← word? ['\'', '\'', '\''] then
    let _ ← lineEnd?
    multiline '\'' false (text.length + 1) []
  else shortString

/-! ### Keys -/

/-- The characters of a key without quotes. -/
def isBareKey (char : Char) : Bool :=
  (char.isAlpha || char.isDigit) || char == '_' || char == '-'

/-- Reads one key. -/
def simpleKey : Scan String := do
  match ← peek? with
  | some '"' | some '\'' => shortString
  | _ =>
    let name ← many isBareKey
    if name.isEmpty then fail else pure (String.ofList name)

/-- Reads the keys that follow a first one after points. -/
def moreKeys : Nat → List String → Scan (List String)
  | 0, _ => fail
  | fuel + 1, before => do
    blanks
    if ← word? ['.'] then
      blanks
      let next ← simpleKey
      moreKeys fuel (next :: before)
    else pure before

/-- How many keys a dotted key may have, and how deep values may be nested. -/
def nestingLimit : Nat := 79

/-- Reads a dotted key with the blanks around it: the keys before the last, and the
last. -/
def dottedKey : Scan (List String × String) := do
  blanks
  let first ← simpleKey
  match ← moreKeys nestingLimit [first] with
  | last :: before => pure (before.reverse, last)
  | [] => fail

end Scan

end TreeWatch.Toml
