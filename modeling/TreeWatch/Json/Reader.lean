/-
This file reads JSON values one octet at a time. The reader is a machine whose state
holds everything about the octets already read: the containers that are still open,
the innermost one's content, and the token under way. A value that is cut anywhere
can therefore be resumed with the octets that follow, and whether a text that stops
early could still become a value is a property of the state reached.
-/

import TreeWatch.Json.Text
import TreeWatch.Json.Number

namespace TreeWatch.Json

/-- A container around the value being read. -/
inductive Frame where
  /-- A list with its items so far, last one first. -/
  | list (items : List Json)
  /-- An object with its members so far and the key whose value is being read. -/
  | object (members : Entries Json) (name : String)

/-- How many containers may be open at once. -/
def depthLimit : Nat := 127

/-- Where a value stands between two of its octets. The containers around the current
one are listed innermost first. -/
inductive State where
  /-- A value must start. -/
  | value (around : List Frame)
  /-- After the opening bracket of a list. -/
  | listStart (around : List Frame)
  /-- After a comma in a list. -/
  | listNext (items : List Json) (around : List Frame)
  /-- After an item of a list. -/
  | listAfter (items : List Json) (around : List Frame)
  /-- After the opening brace of an object. -/
  | objectStart (around : List Frame)
  /-- After a comma in an object. -/
  | objectNext (members : Entries Json) (around : List Frame)
  /-- Inside a key. -/
  | key (scan : TextScan) (members : Entries Json) (around : List Frame)
  /-- After a key. -/
  | colon (name : String) (members : Entries Json) (around : List Frame)
  /-- After a member of an object. -/
  | objectAfter (members : Entries Json) (around : List Frame)
  /-- Inside a literal word, with the octets it still lacks. -/
  | word (lacking : Bytes) (meaning : Json) (around : List Frame)
  /-- Inside a string value. -/
  | string (scan : TextScan) (around : List Frame)
  /-- Inside a number. -/
  | number (scan : NumberScan) (around : List Frame)

/-- What one octet does to the value being read. -/
inductive Step where
  | more (state : State)
  /-- The octet completes the value. -/
  | done (value : Json)
  /-- The value was complete before this octet. -/
  | doneBefore (value : Json)
  /-- The octet is at fault. -/
  | refuse (cause : Cause)
  /-- The octets before this one are at fault. -/
  | refuseBefore (cause : Cause)

/-- A literal word after its first letter, with the value it stands for. -/
def word? (letter : UInt8) : Option (Bytes × Json) :=
  if letter == 0x6e then some ([0x75, 0x6c, 0x6c], .null)
  else if letter == 0x74 then some ([0x72, 0x75, 0x65], .bool true)
  else if letter == 0x66 then some ([0x61, 0x6c, 0x73, 0x65], .bool false)
  else none

namespace State

/-- The state inside the surrounding containers once a value in them is complete. -/
def within (value : Json) : List Frame → Step
  | [] => .done value
  | .list items :: around => .more (.listAfter (value :: items) around)
  | .object members name :: around => .more (.objectAfter (members.put name value) around)

/-- Starts a value with an octet that is not blank. -/
def begin (around : List Frame) (byte : UInt8) : Step :=
  if byte == 0x22 then .more (.string {} around)
  else if byte == 0x7b then
    if around.length < depthLimit then .more (.objectStart around) else .refuse .tooDeep
  else if byte == 0x5b then
    if around.length < depthLimit then .more (.listStart around) else .refuse .tooDeep
  else match word? byte with
    | some (lacking, meaning) => .more (.word lacking meaning around)
    | none => match NumberScan.start? byte with
      | some scan => .more (.number scan around)
      | none => .refuse .expectedValue

/-- Reads an octet after an item of a list. -/
def afterItem (items : List Json) (around : List Frame) (byte : UInt8) : Step :=
  if isBlank byte then .more (.listAfter items around)
  else if byte == 0x2c then .more (.listNext items around)
  else if byte == 0x5d then within (.list items.reverse) around
  else .refuse .expectedListCommaOrEnd

/-- Reads an octet after a member of an object. -/
def afterMember (members : Entries Json) (around : List Frame) (byte : UInt8) : Step :=
  if isBlank byte then .more (.objectAfter members around)
  else if byte == 0x2c then .more (.objectNext members around)
  else if byte == 0x7d then within (.object members) around
  else .refuse .expectedObjectCommaOrEnd

/-- Reads the octet that ended a value which shows its end only by what follows. -/
def afterEnded (value : Json) (around : List Frame) (byte : UInt8) : Step :=
  match around with
  | [] => .doneBefore value
  | .list items :: around => afterItem (value :: items) around byte
  | .object members name :: around => afterMember (members.put name value) around byte

/-- Reads one octet. -/
def step (state : State) (byte : UInt8) : Step :=
  match state with
  | .value around => if isBlank byte then .more (.value around) else begin around byte
  | .listStart around =>
    if isBlank byte then .more (.listStart around)
    else if byte == 0x5d then within (.list []) around
    else begin (.list [] :: around) byte
  | .listNext items around =>
    if isBlank byte then .more (.listNext items around)
    else if byte == 0x5d then .refuse .trailingComma
    else begin (.list items :: around) byte
  | .listAfter items around => afterItem items around byte
  | .objectStart around =>
    if isBlank byte then .more (.objectStart around)
    else if byte == 0x7d then within (.object []) around
    else if byte == 0x22 then .more (.key {} [] around)
    else .refuse .keyNotString
  | .objectNext members around =>
    if isBlank byte then .more (.objectNext members around)
    else if byte == 0x7d then .refuse .trailingComma
    else if byte == 0x22 then .more (.key {} members around)
    else .refuse .keyNotString
  | .key scan members around =>
    match scan.step byte with
    | .more scan => .more (.key scan members around)
    | .done name => .more (.colon name members around)
    | .refuse cause => .refuse cause
    | .refuseBefore cause => .refuseBefore cause
  | .colon name members around =>
    if isBlank byte then .more (.colon name members around)
    else if byte == 0x3a then .more (.value (.object members name :: around))
    else .refuse .expectedColon
  | .objectAfter members around => afterMember members around byte
  | .word lacking meaning around =>
    match lacking with
    | [] => .refuse .expectedWord
    | [last] => if byte == last then within meaning around else .refuse .expectedWord
    | next :: lacking =>
      if byte == next then .more (.word lacking meaning around) else .refuse .expectedWord
  | .string scan around =>
    match scan.step byte with
    | .more scan => .more (.string scan around)
    | .done text => within (.string text) around
    | .refuse cause => .refuse cause
    | .refuseBefore cause => .refuseBefore cause
  | .number scan around =>
    match scan.step byte with
    | .more scan => .more (.number scan around)
    | .refuse cause => .refuse cause
    | .ended =>
      match scan.value with
      | .ok result => afterEnded (.number result) around byte
      | .error cause => .refuseBefore cause

/-- What is missing when the text stops in the given containers after a value. -/
def endWithin (value : Json) : List Frame → Except Cause Json
  | [] => .ok value
  | .list _ :: _ => .error .endInList
  | .object _ _ :: _ => .error .endInObject

/-- What the text denotes if it stops here. Only a number may end this way. -/
def finish : State → Except Cause Json
  | .value _ | .listNext _ _ | .objectNext _ _ | .word _ _ _ => .error .endInValue
  | .listStart _ | .listAfter _ _ => .error .endInList
  | .objectStart _ | .objectAfter _ _ | .colon _ _ _ => .error .endInObject
  | .key _ _ _ | .string _ _ => .error .endInString
  | .number scan around =>
    match scan.finish with
    | .ok result => endWithin (.number result) around
    | .error cause => .error cause

end State

/-- How far some octets take a value. -/
inductive Progress where
  /-- The value is complete; these octets follow it. -/
  | complete (value : Json) (rest : Bytes)
  | partly (state : State)
  | failed (fault : Fault)

/-- Reads octets from a state until the value is complete or a fault is met. -/
def advance : State → Bytes → Progress
  | state, [] => .partly state
  | state, byte :: rest =>
    match state.step byte with
    | .more state => advance state rest
    | .done value => .complete value rest
    | .doneBefore value => .complete value (byte :: rest)
    | .refuse cause => .failed ⟨cause, rest.length⟩
    | .refuseBefore cause => .failed ⟨cause, rest.length + 1⟩

/-- Reads the value at the front of a text and returns what follows it. -/
def readFirst (text : Bytes) : Except Fault (Json × Bytes) :=
  match advance (.value []) text with
  | .complete value rest => .ok (value, rest)
  | .failed fault => .error fault
  | .partly state =>
    match state.finish with
    | .ok value => .ok (value, [])
    | .error cause => .error ⟨cause, 0⟩

/-- The octets from the first one that is not blank. -/
def skipBlanks (text : Bytes) : Bytes := text.dropWhile isBlank

/-- Accepts only blanks. -/
def expectEnd (rest : Bytes) : Except Fault Unit :=
  match skipBlanks rest with
  | [] => .ok ()
  | _ :: after => .error ⟨.trailingCharacters, after.length⟩

/-- Reads a text that holds one value and nothing else. -/
def read (text : Bytes) : Except Fault Json := do
  let (value, rest) ← readFirst text
  expectEnd rest
  pure value

end TreeWatch.Json
