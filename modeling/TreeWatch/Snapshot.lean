/-
This file defines snapshots: what the server reports about all entities at one
moment. A snapshot travels as one JSON object whose `timestamp` member is the
server's time and whose other members are entities.
-/

import TreeWatch.Status

namespace TreeWatch

/-- The statuses of all reported entities at one moment of the server's clock. -/
structure Snapshot where
  /-- Nanoseconds. -/
  timestamp : Int64
  statuses : SortedMap Status := .empty
  deriving DecidableEq

namespace Snapshot

/-- The member that carries the time; no entity can have this name on the wire. -/
def timestampKey : String := "timestamp"

def withStatus (snapshot : Snapshot) (entity : EntityId) (status : Status) : Snapshot :=
  { snapshot with statuses := snapshot.statuses.insert entity status }

/-- The status of an entity. One that is absent is unknown, never unchanged. -/
def statusOf (snapshot : Snapshot) (entity : EntityId) : Status :=
  (snapshot.statuses.get? entity).getD .unknown

/-- The snapshot of a JSON object, if its time is a 64-bit integer. -/
def ofMembers? (members : Entries Json) : Option Snapshot :=
  match members.lookup timestampKey with
  | some (.number time) =>
    time.int64?.map fun timestamp =>
      { timestamp
        statuses := .ofList ((members.filter fun member => member.1 != timestampKey).map
          fun member => (member.1, .ofJson member.2)) }
  | _ => none

/-- The text of a snapshot on the wire: the time first, then the entities in order,
without blanks. -/
def wire (snapshot : Snapshot) : String :=
  "\x7b" ++ Json.quote timestampKey ++ ":" ++ toString snapshot.timestamp.toInt ++
    String.join (snapshot.statuses.entries.map fun entry =>
      "," ++ Json.quote entry.1 ++ ":" ++ entry.2.wire) ++ "\x7d"

end Snapshot

end TreeWatch
