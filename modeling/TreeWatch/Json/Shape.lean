/-
This file reads JSON texts of a known shape: records, lists, names and integers.
Reading follows the text from left to right and stops at the first thing that does
not fit, so a wrong kind of value is reported even when the text after it is not
JSON. A record may be written as an object, in any order and with unknown members,
or as a list of its fields in their declared order.
-/

import TreeWatch.Json.Skip

namespace TreeWatch.Json

/-- Reads something at the front of a text and leaves what follows it. -/
abbrev Reader := StateT Bytes (Except Fault)

namespace Reader

/-- Fails at the next octet. -/
def refuse {α : Type} (cause : Cause) : Reader α := fun text =>
  .error ⟨cause, text.length - 1⟩

/-- The next octet that is not blank; the blanks before it are consumed. -/
def peek : Reader (Option UInt8) := fun text =>
  let text := skipBlanks text
  .ok (text.head?, text)

/-- Consumes one octet. -/
def drop : Reader Unit := fun text => .ok ((), text.drop 1)

/-- The next octet that is not blank; the text must not end here. -/
def peekValue : Reader UInt8 := do
  match ← peek with
  | some byte => pure byte
  | none => refuse .endInValue

/-- What a complete value is when another kind was wanted. -/
def foundOf : Json → Found
  | .null => .null
  | .bool value => .bool value
  | .number (.int value) => .integer value
  | .number (.float value) => .float value
  | .string value => .string value
  | .list _ => .list
  | .object _ => .object

/-- Fails because the value at the front has the wrong kind. A single value is read
first, so that a fault inside it is the one reported; containers are not entered. -/
def wrongKind {α : Type} (wanted : String) : Reader α := do
  let byte ← peekValue
  if byte == 0x5b then refuse (.wrongKind .list wanted)
  else if byte == 0x7b then refuse (.wrongKind .object wanted)
  else
    let value ← (readFirst : Reader Json)
    fun text => .error ⟨.wrongKind (foundOf value) wanted, text.length⟩

/-- Consumes the string at the front, whose opening quote is next. -/
def takeString : Reader String := do
  drop
  fun text => TextScan.run {} text

/-- Reads a text. -/
def text (wanted : String) : Reader String := do
  let byte ← peekValue
  if byte == 0x22 then takeString else wrongKind wanted

/-- Reads an integer within bounds, both included. -/
def integer (low high : Int) (wanted : String) : Reader Int := do
  let byte ← peekValue
  match NumberScan.start? byte with
  | none => wrongKind wanted
  | some scan =>
    drop
    match ← (fun text => NumberScan.run scan text : Reader Number) with
    | .int value =>
      if low ≤ value ∧ value ≤ high then pure value
      else fun text => .error ⟨.outOfRange value wanted, text.length⟩
    | .float value => fun text => .error ⟨.wrongKind (.float value) wanted, text.length⟩

/-- Reads a signed 64-bit integer. -/
def int64 : Reader Int64 := do
  let value ← integer Int64.minValue.toInt Int64.maxValue.toInt "i64"
  pure (Int64.ofInt value)

/-- Reads an unsigned 64-bit integer. -/
def uint64 : Reader UInt64 := do
  let value ← integer 0 (UInt64.size - 1) "u64"
  pure (UInt64.ofNat value.toNat)

/-- Reads `null`. -/
def null (wanted : String) : Reader Unit := do
  let byte ← peekValue
  if byte == 0x6e then
    let _ ← (readFirst : Reader Json)
    pure ()
  else wrongKind wanted

/-- Reads `null` or a value. -/
def optional {α : Type} (value : Reader α) : Reader (Option α) := do
  match ← peek with
  | some 0x6e => null "null" *> pure none
  | _ => some <$> value

/-- Consumes the colon after a key. -/
def colon : Reader Unit := do
  match ← peek with
  | some 0x3a => drop
  | some _ => refuse .expectedColon
  | none => refuse .endInObject

/-! ### Lists -/

/-- Whether another item follows in a list, after the opening bracket or an item. -/
def anotherItem (first : Bool) : Reader Bool := do
  match ← peek with
  | none => refuse .endInList
  | some 0x5d => pure false
  | some byte =>
    if first then pure true
    else if byte == 0x2c then
      drop
      match ← peek with
      | some 0x5d => refuse .trailingComma
      | some _ => pure true
      | none => refuse .endInValue
    else refuse .expectedListCommaOrEnd

/-- Consumes the closing bracket of a list that must hold no further item. -/
def closeList : Reader Unit := do
  match ← peek with
  | some 0x5d => drop
  | some 0x2c =>
    drop
    match ← peek with
    | some 0x5d => refuse .trailingComma
    | _ => refuse .trailingCharacters
  | some _ => refuse .trailingCharacters
  | none => refuse .endInList

/-- Reads items to the end of a list. Every item takes at least one octet, so the
length of the text bounds their number. -/
def items {α : Type} (item : Reader α) : Nat → Bool → List α → Reader (List α)
  | 0, _, _ => refuse .endInList
  | fuel + 1, first, before => do
    if ← anotherItem first then
      let next ← item
      items item fuel false (next :: before)
    else pure before.reverse

/-- Reads a list of any length. -/
def list {α : Type} (item : Reader α) : Reader (List α) := do
  let byte ← peekValue
  if byte == 0x5b then
    drop
    let text ← get
    let read ← items item (text.length + 1) true []
    closeList
    pure read
  else wrongKind "a sequence"

/-! ### Records -/

/-- A field of a record that is gathered into a draft. -/
structure RecordField (Draft : Type) where
  name : String
  /-- Whether the draft already holds the field. -/
  given : Draft → Bool
  /-- Whether the record is complete without it. -/
  hasDefault : Bool
  /-- Reads the value into the draft. -/
  value : Draft → Reader Draft

/-- The key at the front of an object, if there is another one. -/
def anotherKey (first : Bool) : Reader (Option String) := do
  match ← peek with
  | none => refuse .endInObject
  | some 0x7d => pure none
  | some byte =>
    if byte == 0x2c && !first then
      drop
      match ← peek with
      | some 0x22 => some <$> takeString
      | some 0x7d => refuse .trailingComma
      | some _ => refuse .keyNotString
      | none => refuse .endInValue
    else if !first then refuse .expectedObjectCommaOrEnd
    else if byte == 0x22 then some <$> takeString
    else refuse .keyNotString

variable {Draft : Type}

/-- Reads the members of an object up to its closing brace. A known field may be
given once; unknown ones are skipped. -/
def members (fields : List (RecordField Draft)) : Nat → Bool → Draft → Reader Draft
  | 0, _, _ => refuse .endInObject
  | fuel + 1, first, draft => do
    match ← anotherKey first with
    | none => pure draft
    | some name =>
      match fields.find? (·.name == name) with
      | some field =>
        if field.given draft then fun text => .error ⟨.duplicateField name, text.length⟩
        else
          colon
          let draft ← field.value draft
          members fields fuel false draft
      | none =>
        colon
        fun text => (skipFirst text).map fun rest => ((), rest)
        members fields fuel false draft

/-- Reads the fields of a record written as a list, from the given index on. -/
def listed (kind : String) (total : Nat) :
    List (RecordField Draft) → Nat → Draft → Reader Draft
  | [], _, draft => pure draft
  | field :: fields, index, draft => do
    if ← anotherItem (index == 0) then
      let draft ← field.value draft
      listed kind total fields (index + 1) draft
    else
      match (field :: fields).findIdx? (!·.hasDefault) with
      | none => pure draft
      | some offset =>
        let wanted := kind ++ " with " ++ toString total ++ " elements"
        fun text => .error ⟨.tooShort (index + offset) wanted, text.length⟩

/-- Reads a record in either form. -/
def record (kind : String) (fields : List (RecordField Draft)) (blank : Draft) : Reader Draft := do
  let byte ← peekValue
  if byte == 0x7b then
    drop
    let text ← get
    let draft ← members fields (text.length + 1) true blank
    drop
    match fields.find? fun field => !field.hasDefault && !field.given draft with
    | some field => fun text => .error ⟨.missingField field.name, text.length⟩
    | none => pure draft
  else if byte == 0x5b then
    drop
    let draft ← listed kind fields.length fields 0 blank
    closeList
    pure draft
  else wrongKind kind

/-! ### Names -/

/-- Reads one of a fixed list of names. -/
def name {α : Type} (known : List String) (meaning? : String → Option α)
    (wanted : String) : Reader α := do
  let read ← text wanted
  match meaning? read with
  | some meaning => pure meaning
  | none => fun rest => .error ⟨.unknownVariant read known, rest.length⟩

/-- Reads a bare choice: its name, or an object with the name as its only key and
`null` as the value. -/
def choice {α : Type} (known : List String) (meaning? : String → Option α) : Reader α := do
  let byte ← peekValue
  if byte == 0x22 then name known meaning? "variant identifier"
  else if byte == 0x7b then
    drop
    let meaning ← name known meaning? "variant identifier"
    colon
    null "unit"
    match ← peek with
    | some 0x7d => drop *> pure meaning
    | some _ => refuse .expectedValue
    | none => refuse .endInObject
  else refuse .expectedValue

/-- Reads a text that holds one value of the shape and nothing else. -/
def whole {α : Type} (value : Reader α) (text : Bytes) : Except Fault α := do
  let (read, rest) ← value text
  expectEnd rest
  pure read

end Reader

end TreeWatch.Json
