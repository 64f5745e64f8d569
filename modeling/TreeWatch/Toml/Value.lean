/-
This file says what a TOML document denotes and how its tables grow line by line.
A table can come into being in four ways, and how it did decides what may be added to
it later: a table named by a header is complete once its section ends, one implied by
a longer header may still get a header of its own, one spelled by dotted keys only
grows by dotted keys or by sub-tables, and one written inline never grows.
-/

import TreeWatch.SortedMap

namespace TreeWatch.Toml

/-- How a table came into being. -/
inductive Origin where
  /-- By its own header, or as the top of the document. -/
  | header
  /-- By the header of a table inside it. -/
  | implied
  /-- By a dotted key. -/
  | dotted
  /-- Between braces. -/
  | inline
  deriving DecidableEq, Repr

/-- A TOML value. Of floats and dates only their kind is kept. -/
inductive Value where
  | string (value : String)
  | integer (value : Int)
  | float
  | boolean (value : Bool)
  | date
  | array (items : List Value)
  | table (origin : Origin) (members : List (String × Value))
  /-- The tables of one repeated header, last one first. -/
  | tables (tables : List (List (String × Value)))

/-- The members of a table. -/
abbrev Members := Entries Value

/-- Adds one member to a table that must not have it yet. -/
def addMember (key : String) (value : Value) (members : Members) : Option Members :=
  if (members.lookup key).isSome then none else some (members.put key value)

/-- Changes the table at the end of a path of keys. Tables missing on the way come
into being as `fresh` says. Through a repeated header the path leads into its newest
table. A path of dotted keys must not lead through a table that has a header. -/
def changeAt (fresh : Origin) (change : Origin → Members → Option Members) :
    List String → Origin → Members → Option Members
  | [], origin, members => change origin members
  | key :: path, _, members =>
    match members.lookup key with
    | none => do
      let inner ← changeAt fresh change path fresh []
      pure (members.put key (.table fresh inner))
    | some (.table origin inner) =>
      if origin = .inline ∨ (fresh = .dotted ∧ origin = .header) then none
      else do
        let inner ← changeAt fresh change path origin inner
        pure (members.put key (.table origin inner))
    | some (.tables (newest :: older)) => do
      let newest ← changeAt fresh change path .header newest
      pure (members.put key (.tables (newest :: older)))
    | some _ => none

/-- Sets a dotted key below a table. The table that gets the last key must have been
spelled by dotted keys itself, unless the key is not dotted at all. -/
def setKey (path : List String) (key : String) (value : Value) (members : Members) :
    Option Members :=
  changeAt .dotted (fun origin inner =>
    if path.isEmpty ∨ origin = .dotted then addMember key value inner else none)
    path .header members

/-- Opens the table of a header. -/
def openTable (path : List String) (key : String) (document : Members) : Option Members :=
  changeAt .implied (fun _ inner =>
    match inner.lookup key with
    | none => some (inner.put key (.table .header []))
    | some (.table .implied held) => some (inner.put key (.table .header held))
    | some _ => none) path .header document

/-- Opens another table of a repeated header. -/
def openNextTable (path : List String) (key : String) (document : Members) :
    Option Members :=
  changeAt .implied (fun _ inner =>
    match inner.lookup key with
    | none => some (inner.put key (.tables [[]]))
    | some (.tables older) => some (inner.put key (.tables ([] :: older)))
    | some _ => none) path .header document

/-- Sets a dotted key in the section of a header that has been opened. -/
def setInSection (heading : List String) (path : List String) (key : String)
    (value : Value) (document : Members) : Option Members :=
  changeAt .implied (fun _ inner => setKey path key value inner) heading .header document

/-- The members written between braces. Dotted keys may build tables there as well. -/
def inlineMembers (pairs : List (List String × String × Value)) : Option Members :=
  pairs.foldlM (fun members pair => setKey pair.1 pair.2.1 pair.2.2 members) []

end TreeWatch.Toml
