/-
This file is the core of the live client: how one connection to a status server is
kept alive. It does nothing by itself. Whoever drives it reports what happened to the
request, asks it when the watchdog or the retry is due, and carries out the effects
it answers with.

Requests are numbered, and a report about any request but the newest wanted one is
stale and ignored. While a request is wanted the watchdog is armed; when it fails the
link waits one timeout before the next attempt; when it ends after delivering data the
next attempt is due at once. At most one of a request and a retry exists at a time.
-/

import TreeWatch.Paint
import TreeWatch.Snapshot.Stream
import TreeWatch.Watchdog
import TreeWatch.Text.Duration

namespace TreeWatch

/-- Why a request broke. -/
inductive RequestError where
  /-- The connection was refused, reset or otherwise broken. -/
  | transport (reason : String)
  /-- The server answered with a status other than success. -/
  | status (code : Nat)
  /-- The request ended without delivering anything. -/
  | emptyResponse
  deriving DecidableEq, Repr

def RequestError.message : RequestError → String
  | transport reason => "transport error: " ++ reason
  | status code => "server returned HTTP " ++ toString code
  | emptyResponse => "request ended without data"

/-- Why a request is abandoned. -/
inductive Failure where
  /-- Nothing arrived for a whole timeout. -/
  | stalled (timeout : Nat)
  | request (error : RequestError)
  | decode (error : DecodeError)

def Failure.message : Failure → String
  | stalled timeout => "no progress within " ++ Text.duration timeout
  | request error => error.message
  | decode error => error.message

/-- What the driver of a connection has to do, in order. -/
inductive Effect where
  | paint (paint : Paint)
  | record (notice : Notice)

/-- An instant: milliseconds of the clock that timers use, and the second since 1970
that people read. -/
structure Moment where
  now : Nat
  wall : Int

/-- What is known about the server, with the times shown to people. -/
structure Standing where
  /-- Snapshots are arriving. -/
  connected : Bool := false
  /-- When a snapshot was last shown. -/
  lastUpdate : Option Int := none
  /-- Since when the server counts as lost. -/
  disconnectedSince : Option Int := none
  deriving DecidableEq, Repr

namespace Standing

def name (standing : Standing) : String :=
  if standing.connected then "Connected" else "Disconnected"

/-- A snapshot arrived. -/
def live (wall : Int) : Standing := { connected := true, lastUpdate := some wall }

/-- The server is lost; when it was last heard of stays known. -/
def lost (standing : Standing) (wall : Int) : Standing :=
  { standing with connected := false, disconnectedSince := some wall }

end Standing

/-- The state of a connection. -/
structure Connection where
  history : History := .uninitialized
  watchdog : Watchdog
  /-- The number of the newest request; zero before the first. It is not bounded: a counter of
  64 bits agrees with it as long as fewer than 2^64 requests are started. -/
  generation : Nat := 0
  /-- The newest request is still wanted. -/
  inFlight : Bool := false
  /-- Something has arrived on the newest request. -/
  received : Bool := false
  /-- The octets of the newest request from its newest complete snapshot on. -/
  buffer : Bytes := []
  /-- The snapshot last shown, kept from request to request. -/
  lastApplied : Option Snapshot := none
  /-- The instant of the next attempt, if one is planned. -/
  retryAt? : Option Nat := none
  standing : Standing := {}

namespace Connection

/-- A connection that gives the server `timeout` milliseconds for each sign of life,
and waits as long before it tries again. -/
def new (timeout : Nat) : Connection := { watchdog := { timeout } }

/-- Whether reports about a request are wanted. -/
def isCurrent (connection : Connection) (generation : Nat) : Bool :=
  connection.inFlight && generation == connection.generation

def timeout (connection : Connection) : Nat := connection.watchdog.timeout

def numbered (generation : Nat) : String × String := ("generation", toString generation)

/-- Names the entities to track, once and before the first request. -/
def track (connection : Connection) (entities : List EntityId) :
    Except InitializationError (Connection × List Effect) := do
  let (history, notices) ← connection.history.track entities
  pure ({ connection with history }, notices.map .record)

/-- Starts a new request. One that is still wanted is superseded. -/
def connect (connection : Connection) (moment : Moment) :
    Except InitializationError (Connection × List Effect) :=
  if connection.history.isInitialized then
    let generation := connection.generation + 1
    .ok
      ({ connection with
          generation
          inFlight := true
          received := false
          buffer := []
          retryAt? := none
          watchdog := connection.watchdog.arm moment.now },
        [.record (.debug "Opening status request"
          [numbered generation, ("state", connection.standing.name)])])
  else .error .notInitialized

/-- Ends a live connection and plans the next attempt. Nothing happens to a
connection that is not live. -/
def disconnect (connection : Connection) (moment : Moment) : Connection × List Effect :=
  if connection.standing.connected then
    ({ connection with
        standing := connection.standing.lost moment.wall
        inFlight := false
        retryAt? := some (moment.now + connection.timeout)
        watchdog := connection.watchdog.cancel },
      [.paint (.indicator (.disconnectedSince moment.wall)),
        .record (.info "Disconnected"
          [numbered connection.generation, ("retry_in_ms", toString connection.timeout)])])
  else (connection, [.record (.debug "Already disconnected")])

/-- Abandons the newest request and makes sure that one attempt is planned. The time of
the first failure in a row is kept, and so is an attempt that is planned already. -/
def fail (connection : Connection) (failure : Failure) (moment : Moment) :
    Connection × List Effect :=
  let report := Effect.record (.warn "Status request failed"
    [numbered connection.generation, ("error", failure.message)])
  let abandoned := { connection with
    inFlight := false, watchdog := connection.watchdog.cancel }
  if abandoned.standing.connected then
    let (connection, effects) := abandoned.disconnect moment
    (connection, report :: effects)
  else
    let planned := { abandoned with
      retryAt? := abandoned.retryAt? <|> some (moment.now + abandoned.timeout) }
    if planned.standing.disconnectedSince.isNone then
      ({ planned with standing := planned.standing.lost moment.wall },
        [report, .paint (.indicator (.disconnectedSince moment.wall))])
    else (planned, [report])

/-- The server repeated the snapshot already shown: only the banner may need to
change. -/
def confirm (connection : Connection) (moment : Moment) : Connection × List Effect :=
  if connection.standing.connected then (connection, [])
  else
    ({ connection with standing := .live moment.wall },
      [.record (.info "Connected, snapshot unchanged" [numbered connection.generation]),
        .paint (.indicator (.lastUpdate moment.wall))])

/-- Records and shows a snapshot. -/
def apply (connection : Connection) (snapshot : Snapshot) (moment : Moment) :
    Except InitializationError (Connection × List Effect) := do
  let applied ← connection.history.apply snapshot
  let current := applied.history.current snapshot
  let connected :=
    if connection.standing.connected then []
    else [Effect.record (.info "Connected" [numbered connection.generation])]
  let strip := if applied.recorded then [Effect.paint (.history applied.history.all)] else []
  pure
    ({ connection with
        history := applied.history
        lastApplied := some snapshot
        standing := .live moment.wall },
      applied.notices.map .record ++ connected ++ [.paint (.current current)] ++ strip ++
        [.paint (.indicator (.lastUpdate moment.wall))])

/-- Takes in the newest snapshot of a request: it is shown unless it is the one shown
already. -/
def takeIn (connection : Connection) (snapshot : Snapshot) (moment : Moment) :
    Except InitializationError (Connection × List Effect) :=
  if connection.lastApplied = some snapshot then .ok (connection.confirm moment)
  else connection.apply snapshot moment

/-- Keeps octets that arrived on the newest request. -/
def receive (connection : Connection) (chunk : Bytes) (moment : Moment) : Connection :=
  { connection with
    received := true
    buffer := connection.buffer ++ chunk
    watchdog := connection.watchdog.arm moment.now }

/-- The record of octets that arrived, with how many are now kept. -/
def progressNotice (generation : Nat) (chunk buffer : Bytes) : Notice :=
  .debug "Progress"
    [numbered generation, ("chunk", toString chunk.length), ("buffered", toString buffer.length)]

/-- The record of octets nobody wants. -/
def staleNotice (generation : Nat) : Notice :=
  .debug "Ignoring progress from stale request" [numbered generation]

/-- Octets arrived on a request. They are kept from the newest complete snapshot on,
because nothing before it can matter any more. -/
def progress (connection : Connection) (generation : Nat) (chunk : Bytes) (moment : Moment) :
    Except InitializationError (Connection × List Effect) :=
  if connection.isCurrent generation then
    let received := connection.receive chunk moment
    let report := Effect.record (progressNotice generation chunk received.buffer)
    match Stream.decodeLatest received.buffer with
    | .ok decoded => do
      let compacted := { received with buffer := received.buffer.drop decoded.offset }
      let (connection, effects) ← compacted.takeIn decoded.snapshot moment
      pure (connection, report :: effects)
    | .error error =>
      if error.isIncomplete then .ok (received, [report])
      else
        let (connection, effects) := received.fail (.decode error) moment
        .ok (connection, report :: effects)
  else .ok (connection, [.record (staleNotice generation)])

/-- A request broke. -/
def requestError (connection : Connection) (generation : Nat) (error : RequestError)
    (moment : Moment) : Connection × List Effect :=
  if connection.isCurrent generation then connection.fail (.request error) moment
  else
    (connection, [.record (.debug "Ignoring error from stale request"
      [numbered generation, ("error", error.message)])])

/-- A request ended normally. One that delivered something is replaced at once; one
that did not counts as broken, so that the server is not asked without pause. -/
def complete (connection : Connection) (generation : Nat) (moment : Moment) :
    Connection × List Effect :=
  if connection.isCurrent generation then
    if connection.received then
      ({ connection with inFlight := false, retryAt? := some moment.now },
        [.record (.info "Status stream ended, reissuing request" [numbered generation])])
    else connection.fail (.request .emptyResponse) moment
  else (connection, [])

/-- The watchdog may be due. Progress since may have put its deadline off. -/
def watchdogDue (connection : Connection) (moment : Moment) : Connection × List Effect :=
  let (watchdog, fired) := connection.watchdog.fire moment.now
  let connection := { connection with watchdog }
  if fired && connection.inFlight then connection.fail (.stalled connection.timeout) moment
  else (connection, [])

/-- Wants nothing any more. -/
def shutdown (connection : Connection) : Connection :=
  { connection with inFlight := false, retryAt? := none, watchdog := connection.watchdog.cancel }

/-! ### Everything that can happen to a connection -/

/-- One thing that happens. -/
inductive Event where
  | track (entities : List EntityId)
  | connect
  | progress (generation : Nat) (chunk : Bytes)
  | requestError (generation : Nat) (error : RequestError)
  | complete (generation : Nat)
  | watchdogDue
  | disconnect
  | shutdown

/-- What an event led to. -/
structure Outcome where
  connection : Connection
  effects : List Effect := []
  /-- The event came in the wrong order; nothing has changed. -/
  error : Option InitializationError := none

/-- The outcome of an operation that can come in the wrong order. -/
def Outcome.ofResult (before : Connection) :
    Except InitializationError (Connection × List Effect) → Outcome
  | .ok (connection, effects) => { connection, effects }
  | .error error => { connection := before, error := some error }

/-- The outcome of an operation that cannot. -/
def Outcome.of (result : Connection × List Effect) : Outcome :=
  { connection := result.1, effects := result.2 }

/-- What one event at some moment leads to. -/
def step (connection : Connection) (event : Event) (moment : Moment) : Outcome :=
  match event with
  | .track entities => .ofResult connection (connection.track entities)
  | .connect => .ofResult connection (connection.connect moment)
  | .progress generation chunk =>
    .ofResult connection (connection.progress generation chunk moment)
  | .requestError generation error => .of (connection.requestError generation error moment)
  | .complete generation => .of (connection.complete generation moment)
  | .watchdogDue => .of (connection.watchdogDue moment)
  | .disconnect => .of (connection.disconnect moment)
  | .shutdown => .of (connection.shutdown, [])

end Connection

end TreeWatch
