/-
This file reads whole TOML documents: key lines and headers, each with its own rest
of the line, and the values on them. Keys and headers are put into the document in
the order they stand, and one that contradicts an earlier one makes the document
invalid.
-/

import TreeWatch.Toml.Scalar
import TreeWatch.Toml.Value

namespace TreeWatch.Toml

namespace Scan

/-- The characters that end an unquoted word. -/
def endsWord (char : Char) : Bool :=
  isBlank char || char == '\n' || char == '\r' || char == ',' || char == ']' ||
    char == '#' || char == '\x7d'

/-- Reads a value that is a single word. A time may follow a date after one space. -/
def scalar : Scan Value := do
  let word ← many (!endsWord ·)
  match Scalar.ofWord? word with
  | some (.boolean value) => pure (.boolean value)
  | some (.integer value) => pure (.integer value)
  | some .float => pure .float
  | some .date => pure .date
  | some .fullDate => fun text =>
    match text with
    | ' ' :: rest =>
      let time := rest.takeWhile (!endsWord ·)
      if Scalar.isTime true time then some (.date, rest.drop time.length)
      else some (.date, text)
    | _ => some (.date, text)
  | none => fail

/-- Reads the items of an array after its opening bracket, and that of the end. Each
item takes a character, so the length of the text bounds their number. -/
def arrayItems (item : Scan Value) : Nat → List Value → Scan (List Value)
  | 0, _ => fail
  | fuel + 1, before => do
    betweenItems
    if ← word? [']'] then pure before.reverse
    else
      let next ← item
      betweenItems
      if ← word? [','] then arrayItems item fuel (next :: before)
      else
        char ']'
        pure (next :: before).reverse

/-- Reads one pair of an inline table. -/
def pair (value : Scan Value) : Scan (List String × String × Value) := do
  let (path, key) ← dottedKey
  char '='
  blanks
  let read ← value
  blanks
  pure (path, key, read)

/-- Reads the pairs of an inline table from the first one on, and its end. -/
def inlinePairs (value : Scan Value) :
    Nat → List (List String × String × Value) → Scan (List (List String × String × Value))
  | 0, _ => fail
  | fuel + 1, before => do
    let next ← pair value
    if ← word? [','] then inlinePairs value fuel (next :: before)
    else
      char '\x7d'
      pure (next :: before).reverse

/-- Reads a value. What its containers hold is read by `inner`; without it there must
be no container. -/
def valueWith (inner : Option (Scan Value)) : Scan Value := do
  match ← peek?, inner with
  | some '"', _ | some '\'', _ => .string <$> string
  | some '[', some inner =>
    char '['
    let text ← get
    .array <$> arrayItems inner (text.length + 1) []
  | some '\x7b', some inner =>
    char '\x7b'
    blanks
    if ← word? ['\x7d'] then pure (.table .inline [])
    else
      let text ← get
      let pairs ← inlinePairs inner (text.length + 1) []
      match inlineMembers pairs with
      | some members => pure (.table .inline members)
      | none => fail
  | _, _ => scalar

/-- Reads a value in which containers are nested no deeper than given. -/
def value : Nat → Scan Value
  | 0 => valueWith none
  | depth + 1 => valueWith (some (value depth))

end Scan

/-- A document as far as it has been read. -/
structure Document where
  members : Members := []
  /-- The path of the section that key lines belong to. -/
  heading : List String := []

namespace Document

/-- Reads a header line, whose first bracket is next. -/
def header (document : Document) : Scan Document := do
  Scan.char '['
  let repeated ← Scan.word? ['[']
  let (path, key) ← Scan.dottedKey
  Scan.char ']'
  if repeated then Scan.char ']'
  Scan.restOfLine
  let opened := if repeated then openNextTable path key document.members
    else openTable path key document.members
  match opened with
  | some members => pure { members, heading := path ++ [key] }
  | none => Scan.fail

/-- Reads a key line. -/
def keyLine (document : Document) : Scan Document := do
  let (path, key) ← Scan.dottedKey
  Scan.char '='
  Scan.blanks
  let value ← Scan.value Scan.nestingLimit
  Scan.restOfLine
  match setInSection document.heading path key value document.members with
  | some members => pure { document with members }
  | none => Scan.fail

/-- Reads lines to the end of the text. Each takes a character, so the length of the
text bounds their number. -/
def lines : Nat → Document → Scan Document
  | 0, _ => Scan.fail
  | fuel + 1, document => do
    Scan.blanks
    match ← Scan.peek? with
    | none => pure document
    | some '#' | some '\n' | some '\r' =>
      Scan.comment?
      if ← Scan.lineEnd? then lines fuel document
      else if (← Scan.peek?).isSome then Scan.fail
      else pure document
    | some '[' => do
      let document ← document.header
      lines fuel document
    | some _ => do
      let document ← document.keyLine
      lines fuel document

end Document

/-- The top table of a document, if the document is valid. A byte order mark at its
start is ignored. -/
def read (text : String) : Option Members :=
  let characters := match text.toList with
    | '\ufeff' :: rest => rest
    | characters => characters
  (Document.lines (characters.length + 1) {} characters).map fun result => result.1.members

end TreeWatch.Toml
