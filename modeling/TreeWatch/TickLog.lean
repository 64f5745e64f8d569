/-
This file defines the log messages of a behaviour tree. One message lists every
status change of one tick and describes the whole tree: nodes it does not mention
are unknown until they appear again. A valid message becomes a snapshot in which each
node with an identifier has the colour of its last change.
-/

import TreeWatch.NodeState
import TreeWatch.Snapshot

namespace TreeWatch

/-- The change of one node. -/
structure StatusChange where
  /-- The node in the diagram; older producers leave it out. -/
  uid : Option UInt64 := none
  nodeName : String := ""
  previousStatus : Option String := none
  /-- Should be the name of a node state. -/
  currentStatus : String
  deriving DecidableEq, Repr

/-- One log message. -/
structure TickLog where
  /-- The producer's time in nanoseconds. -/
  timestamp : Int64
  changes : List StatusChange := []
  deriving DecidableEq

namespace TickLog

/-- Why a log message is refused. -/
inductive ValidationError where
  | invalidTimestamp (timestamp : Int64)
  | unknownStatus (name : String)
  deriving DecidableEq

def ValidationError.message : ValidationError → String
  | .invalidTimestamp timestamp =>
    "timestamp must not be negative, got " ++ toString timestamp.toInt
  | .unknownStatus name =>
    "unknown node status '" ++ name ++ "': expected IDLE, RUNNING, SUCCESS or FAILURE"

/-- Checks the time, then every change, also those without an identifier. Simulated
clocks may start at zero. -/
def validate (log : TickLog) : Except ValidationError Unit :=
  if log.timestamp < 0 then .error (.invalidTimestamp log.timestamp)
  else
    match log.changes.find? fun change => (NodeState.ofName? change.currentStatus).isNone with
    | some change => .error (.unknownStatus change.currentStatus)
    | none => .ok ()

/-- Paints one change into a snapshot. A change without an identifier has no place in
the diagram. -/
def paintChange (snapshot : Snapshot) (change : StatusChange) : Snapshot :=
  match change.uid, NodeState.ofName? change.currentStatus with
  | some uid, some state => snapshot.withStatus (toString uid.toNat) (.value state.color)
  | _, _ => snapshot

/-- The snapshot a valid message describes. -/
def toSnapshot (log : TickLog) : Except ValidationError Snapshot := do
  log.validate
  pure (log.changes.foldl paintChange { timestamp := log.timestamp })

/-! ### Writing -/

/-- The members of an object that are present, as JSON text. -/
def objectText (members : List (String × Option String)) : String :=
  let present := members.filterMap fun member =>
    member.2.map fun value => Json.quote member.1 ++ ":" ++ value
  "\x7b" ++ ",".intercalate present ++ "\x7d"

def changeWire (change : StatusChange) : String :=
  objectText
    [("uid", change.uid.map fun uid => toString uid.toNat),
      ("node_name", some (Json.quote change.nodeName)),
      ("previous_status", change.previousStatus.map Json.quote),
      ("current_status", some (Json.quote change.currentStatus))]

/-- The JSON text of a message. Absent fields of a change are left out. -/
def wire (log : TickLog) : String :=
  objectText
    [("timestamp", some (toString log.timestamp.toInt)),
      ("event_log", some ("[" ++ ",".intercalate (log.changes.map changeWire) ++ "]"))]

/-! ### Reading -/

/-- A change of which some fields have been read. -/
structure ChangeDraft where
  uid : Option (Option UInt64) := none
  nodeName : Option String := none
  previousStatus : Option (Option String) := none
  currentStatus : Option String := none

open Json.Reader in
def changeFields : List (RecordField ChangeDraft) :=
  [{ name := "uid", hasDefault := true, given := (·.uid.isSome),
     value := fun draft => do
      let uid ← optional uint64
      pure { draft with uid := some uid } },
    { name := "node_name", hasDefault := true, given := (·.nodeName.isSome),
      value := fun draft => do
        let name ← text "a string"
        pure { draft with nodeName := some name } },
    { name := "previous_status", hasDefault := true, given := (·.previousStatus.isSome),
      value := fun draft => do
        let status ← optional (text "a string")
        pure { draft with previousStatus := some status } },
    { name := "current_status", hasDefault := false, given := (·.currentStatus.isSome),
      value := fun draft => do
        let status ← text "a string"
        pure { draft with currentStatus := some status } }]

/-- Reads one change. -/
def changeReader : Json.Reader StatusChange := do
  let draft ← Json.Reader.record "struct StatusChange" changeFields {}
  pure
    { uid := draft.uid.join
      nodeName := draft.nodeName.getD ""
      previousStatus := draft.previousStatus.join
      currentStatus := draft.currentStatus.getD "" }

/-- A message of which some fields have been read. -/
structure Draft where
  timestamp : Option Int64 := none
  changes : Option (List StatusChange) := none

open Json.Reader in
def fields : List (RecordField Draft) :=
  [{ name := "timestamp", hasDefault := false, given := (·.timestamp.isSome),
     value := fun draft => do
      let timestamp ← int64
      pure { draft with timestamp := some timestamp } },
    { name := "event_log", hasDefault := true, given := (·.changes.isSome),
      value := fun draft => do
        let changes ← list changeReader
        pure { draft with changes := some changes } }]

/-- Reads a message. -/
def reader : Json.Reader TickLog := do
  let draft ← Json.Reader.record "struct BehaviorTreeLog" fields {}
  pure { timestamp := draft.timestamp.getD 0, changes := draft.changes.getD [] }

/-- Reads a text that is one message. -/
def parse (text : Bytes) : Except Json.Fault TickLog := Json.Reader.whole reader text

end TickLog

end TreeWatch
