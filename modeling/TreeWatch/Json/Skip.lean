/-
This file skips a JSON value whose content nobody asked for. Only the structure is
checked: brackets, commas, literal words, the shape of numbers, escapes and control
characters. Depth, the size of numbers and the encoding of strings do not matter.
Like reading, skipping is a machine over single octets.
-/

import TreeWatch.Json.Text
import TreeWatch.Json.Number
import TreeWatch.Json.Reader

namespace TreeWatch.Json.Skip

/-- The two kinds of container. -/
inductive Container where
  | list
  | object
  deriving DecidableEq

namespace Container

def closing : Container → UInt8
  | .list => 0x5d
  | .object => 0x7d

/-- The text ended inside. -/
def ended : Container → Cause
  | .list => .endInList
  | .object => .endInObject

/-- Something else than a comma or the closing bracket stood after an item. -/
def expectedCommaOrEnd : Container → Cause
  | .list => .expectedListCommaOrEnd
  | .object => .expectedObjectCommaOrEnd

end Container

/-- Where a skipped string stands: between characters, after a backslash, or before
that many more digits of a code. -/
inductive TextPart where
  | plain
  | escape
  | code (digits : Bytes)

/-- Where a skipped value stands between two of its octets, inside the containers
listed innermost first. -/
inductive State where
  /-- A value must start. -/
  | value (around : List Container)
  /-- After an opening bracket. -/
  | opened (container : Container) (around : List Container)
  /-- After a comma in an object. -/
  | keyNext (around : List Container)
  /-- Inside a key. -/
  | key (part : TextPart) (around : List Container)
  /-- After a key. -/
  | colon (around : List Container)
  /-- After an item or member. -/
  | after (container : Container) (around : List Container)
  | word (lacking : Bytes) (around : List Container)
  | string (part : TextPart) (around : List Container)
  | number (part : NumberPart) (around : List Container)

/-- What one octet does. -/
inductive Step where
  | more (state : State)
  | done
  /-- The value was complete before this octet. -/
  | doneBefore
  | refuse (cause : Cause)

/-- What one octet does to a skipped string; `none` is its end. -/
def textStep (part : TextPart) (byte : UInt8) : Except Cause (Option TextPart) :=
  match part with
  | .plain =>
    if byte == 0x22 then .ok none
    else if byte == 0x5c then .ok (some .escape)
    else if byte < 0x20 then .error .controlCharacter
    else .ok (some .plain)
  | .escape =>
    if byte == 0x75 then .ok (some (.code []))
    else if (escapedByte? byte).isSome then .ok (some .plain)
    else .error .invalidEscape
  | .code digits =>
    if digits.length < 3 then .ok (some (.code (byte :: digits)))
    else if (hexNumber? (byte :: digits)).isSome then .ok (some .plain)
    else .error .invalidEscape

namespace State

/-- The state once a value in the given containers is complete. -/
def within : List Container → Step
  | [] => .done
  | container :: around => .more (.after container around)

/-- Starts a value with an octet that is not blank. -/
def begin (around : List Container) (byte : UInt8) : Step :=
  if byte == 0x22 then .more (.string .plain around)
  else if byte == 0x7b then .more (.opened .object around)
  else if byte == 0x5b then .more (.opened .list around)
  else match word? byte with
    | some (lacking, _) => .more (.word lacking around)
    | none => match NumberPart.start? byte with
      | some part => .more (.number part around)
      | none => .refuse .expectedValue

/-- Reads an octet where a key must start. -/
def beginKey (around : List Container) (byte : UInt8) : Step :=
  if byte == 0x22 then .more (.key .plain around) else .refuse .keyNotString

/-- Reads an octet after an item or member. -/
def afterItem (container : Container) (around : List Container) (byte : UInt8) : Step :=
  if isBlank byte then .more (.after container around)
  else if byte == 0x2c then
    match container with
    | .list => .more (.value (.list :: around))
    | .object => .more (.keyNext around)
  else if byte == container.closing then within around
  else .refuse container.expectedCommaOrEnd

/-- Reads one octet. -/
def step (state : State) (byte : UInt8) : Step :=
  match state with
  | .value around => if isBlank byte then .more (.value around) else begin around byte
  | .opened container around =>
    if isBlank byte then .more (.opened container around)
    else if byte == container.closing then within around
    else match container with
      | .list => begin (.list :: around) byte
      | .object => beginKey around byte
  | .keyNext around =>
    if isBlank byte then .more (.keyNext around) else beginKey around byte
  | .key part around =>
    match textStep part byte with
    | .ok (some part) => .more (.key part around)
    | .ok none => .more (.colon around)
    | .error cause => .refuse cause
  | .colon around =>
    if isBlank byte then .more (.colon around)
    else if byte == 0x3a then .more (.value (.object :: around))
    else .refuse .expectedColon
  | .after container around => afterItem container around byte
  | .word lacking around =>
    match lacking with
    | [] => .refuse .expectedWord
    | [last] => if byte == last then within around else .refuse .expectedWord
    | next :: lacking =>
      if byte == next then .more (.word lacking around) else .refuse .expectedWord
  | .string part around =>
    match textStep part byte with
    | .ok (some part) => .more (.string part around)
    | .ok none => within around
    | .error cause => .refuse cause
  | .number part around =>
    match part.step byte with
    | .more part => .more (.number part around)
    | .invalid => .refuse .invalidNumber
    | .ended =>
      match around with
      | [] => .doneBefore
      | container :: around => afterItem container around byte

/-- Whether the value is complete if the text stops here. -/
def finish : State → Except Cause Unit
  | .value _ | .word _ _ => .error .endInValue
  | .opened container _ | .after container _ => .error container.ended
  | .keyNext _ | .colon _ => .error .endInObject
  | .key _ _ | .string _ _ => .error .endInString
  | .number part around =>
    if part.complete then
      match around with
      | [] => .ok ()
      | container :: _ => .error container.ended
    else .error .invalidNumber

end State

/-- Reads octets from a state to the end of the value and returns what follows it. -/
def run : State → Bytes → Except Fault Bytes
  | state, [] =>
    match state.finish with
    | .ok () => .ok []
    | .error cause => .error ⟨cause, 0⟩
  | state, byte :: rest =>
    match state.step byte with
    | .more state => run state rest
    | .done => .ok rest
    | .doneBefore => .ok (byte :: rest)
    | .refuse cause => .error ⟨cause, rest.length⟩

end TreeWatch.Json.Skip

namespace TreeWatch.Json

/-- Skips the value at the front of a text and returns what follows it. -/
def skipFirst (text : Bytes) : Except Fault Bytes := Skip.run (.value []) text

end TreeWatch.Json
