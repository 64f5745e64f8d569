/-
This file finds the newest snapshot in a stream. A server writes snapshots one after
the other into one endless response, and only the newest complete one matters. A
snapshot begins at a marker: an opening brace followed, blanks aside, by the key
`"timestamp"`. Inside a JSON string the quotes of that key would be escaped, so no
status text can look like a marker; a nested object still can.
-/

import TreeWatch.Snapshot
import TreeWatch.Json.Reader
import TreeWatch.Json.Message

namespace TreeWatch

/-- Why no snapshot could be taken from some octets. -/
inductive DecodeError where
  /-- There are octets but no marker among them. -/
  | missingMarker
  /-- A snapshot has started to arrive and none is complete yet. -/
  | incomplete
  /-- A snapshot is not JSON; the place counts from its start. -/
  | invalidJson (cause : Json.Cause) (position : Json.Position)
  /-- Something that cannot begin a snapshot follows the newest one. -/
  | trailingCharacters
  | notAnObject
  | invalidTimestamp

namespace DecodeError

/-- Whether further octets could still complete a snapshot. -/
def isIncomplete : DecodeError → Bool
  | incomplete => true
  | _ => false

def message : DecodeError → String
  | missingMarker => "no snapshot start found in buffer"
  | incomplete => "snapshot not fully received yet"
  | invalidJson cause position => "invalid snapshot JSON: " ++ cause.messageAt position
  | trailingCharacters => "invalid snapshot JSON: trailing characters after snapshot"
  | notAnObject => "snapshot must be a JSON object"
  | invalidTimestamp => "snapshot timestamp must be an integer"

/-- The error for a text that is not JSON. -/
def ofFault (text : Bytes) (fault : Json.Fault) : DecodeError :=
  .invalidJson fault.cause (fault.position text)

end DecodeError

/-- The newest complete snapshot of a stream and the offset it starts at. -/
structure Decoded where
  snapshot : Snapshot
  offset : Nat
  deriving DecidableEq

namespace Stream

/-- The octets of the key that must follow the opening brace. -/
def markerKey : Bytes := Utf8.encode (Json.quote Snapshot.timestampKey)

/-- Whether a snapshot starts right here. -/
def startsHere : Bytes → Bool
  | [] => false
  | byte :: rest => byte == 0x7b && markerKey.isPrefixOf (Json.skipBlanks rest)

/-- Whether these octets could become blanks and a marker: there are none, or they
are blanks, or they are a marker cut off early. -/
def mayStart (bytes : Bytes) : Bool :=
  match Json.skipBlanks bytes with
  | [] => true
  | byte :: rest => byte == 0x7b && (Json.skipBlanks rest).isPrefixOf markerKey

/-- Where snapshots start, newest first, each offset with the octets from there on. -/
def starts (offset : Nat) (older : List (Nat × Bytes)) : Bytes → List (Nat × Bytes)
  | [] => older
  | byte :: rest =>
    let here := if startsHere (byte :: rest) then (offset, byte :: rest) :: older else older
    starts (offset + 1) here rest

/-- The snapshot of a complete value. -/
def ofValue (value : Json) : Except DecodeError Snapshot :=
  match value with
  | .object members =>
    match Snapshot.ofMembers? members with
    | some snapshot => .ok snapshot
    | none => .error .invalidTimestamp
  | _ => .error .notAnObject

/-- The newest of some starts at which a complete value stands. -/
def newestComplete : List (Nat × Bytes) → Except DecodeError Decoded
  | [] => .error .incomplete
  | (offset, text) :: older =>
    match Json.readFirst text with
    | .ok (value, _) => (ofValue value).map (⟨·, offset⟩)
    | .error _ => newestComplete older

/-- Takes the newest complete snapshot out of a stream. While the newest one is still
arriving the one before it counts. -/
def decodeLatest (buffer : Bytes) : Except DecodeError Decoded :=
  match starts 0 [] buffer with
  | [] => .error (if mayStart buffer then .incomplete else .missingMarker)
  | (offset, text) :: older =>
    match Json.readFirst text with
    | .ok (value, rest) =>
      if mayStart rest then (ofValue value).map (⟨·, offset⟩) else .error .trailingCharacters
    | .error fault =>
      if fault.cause.category = .unfinished then newestComplete older
      else .error (.ofFault text fault)

end Stream

/-- Reads a text that is one snapshot, with nothing but blanks around it. -/
def Snapshot.parse (text : Bytes) : Except DecodeError Snapshot :=
  match Json.read text with
  | .ok value => Stream.ofValue value
  | .error fault => .error (.ofFault text fault)

end TreeWatch
