/-
This file turns what producers send to the server into snapshots. A producer sends
either the log message of a tick or a snapshot of its own making; the latter may leave
out its time, which then is the time of its arrival. What cannot be turned into a
snapshot is refused with a reason.
-/

import TreeWatch.Notice
import TreeWatch.Snapshot.Stream
import TreeWatch.TickLog

namespace TreeWatch

/-- Why something sent to the server is refused. -/
inductive Refusal where
  /-- It is no JSON of the right shape. -/
  | malformed (cause : Json.Cause) (position : Json.Position)
  | invalidLog (error : TickLog.ValidationError)
  | invalidSnapshot (error : DecodeError)

namespace Refusal

def message : Refusal → String
  | malformed cause position => cause.messageAt position
  | invalidLog error => error.message
  | invalidSnapshot error => error.message

/-- The refusal of a text with a fault. -/
def ofFault (text : Bytes) (fault : Json.Fault) : Refusal :=
  .malformed fault.cause (fault.position text)

end Refusal

namespace Ingestion

/-- The snapshot of a log message, and what is noted about it. -/
def ofLog (text : Bytes) : Except Refusal (Snapshot × Notice) :=
  match TickLog.parse text with
  | .error fault => .error (.ofFault text fault)
  | .ok log =>
    match log.toSnapshot with
    | .error error => .error (.invalidLog error)
    | .ok snapshot =>
      .ok (snapshot, .info "Ingesting behavior tree log"
        [("timestamp", toString snapshot.timestamp.toInt),
          ("changes", toString log.changes.length),
          ("entities", toString snapshot.statuses.size)])

/-- The members of a snapshot with its time, which is that of the clock if there is
none among them. -/
def stamped (clock : Int64) (members : Entries Json) : Entries Json :=
  if (members.lookup Snapshot.timestampKey).isSome then members
  else members.put Snapshot.timestampKey (.number (.int clock.toInt))

/-- A JSON value in which a snapshot has its time. -/
def stampedValue (clock : Int64) : Json → Json
  | .object members => .object (stamped clock members)
  | other => other

/-- The snapshot a producer sent, and what is noted about it. The clock shows
nanoseconds since 1970. -/
def ofSnapshot (clock : Int64) (text : Bytes) : Except Refusal (Snapshot × Notice) :=
  match Json.read text with
  | .error fault => .error (.ofFault text fault)
  | .ok value =>
    match Stream.ofValue (stampedValue clock value) with
    | .error error => .error (.invalidSnapshot error)
    | .ok snapshot =>
      .ok (snapshot, .info "Ingesting snapshot"
        [("timestamp", toString snapshot.timestamp.toInt),
          ("entities", toString snapshot.statuses.size)])

end Ingestion

end TreeWatch
