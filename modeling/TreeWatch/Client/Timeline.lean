/-
This file plays a client against scripted requests on a clock of its own. Nothing
here waits: the clock jumps from one due instant to the next, so the outcome of any
script can be computed.
-/

import TreeWatch.Client

namespace TreeWatch

/-- A delivery of a scripted request. -/
structure Delivery where
  /-- Milliseconds since the one before it, or since the request was opened. -/
  after : Nat
  arrival : Arrival

/-- What a request delivers, and how long after the last delivery it ends; without an
end it stays open for ever. -/
structure Script where
  deliveries : List Delivery := []
  endsAfter : Option Nat := none

/-- What an open request will still deliver, counted from the last delivery. -/
structure Playing where
  script : Script
  since : Nat

namespace Playing

/-- When the next delivery is due. -/
def due? (playing : Playing) : Option Nat :=
  match playing.script.deliveries with
  | next :: _ => some (playing.since + next.after)
  | [] => playing.script.endsAfter.map (playing.since + ·)

/-- The next delivery, and what remains after it. -/
def next (playing : Playing) (now : Nat) : Arrival × Playing :=
  match playing.script.deliveries with
  | next :: rest =>
    (next.arrival, { script := { playing.script with deliveries := rest }, since := now })
  | [] => (.ended, { script := {}, since := now })

end Playing

/-- Something that will wake the client. -/
structure Alarm where
  due : Nat
  cause : Turn
  /-- What the open request delivers after it. -/
  playing : Option Playing

/-- The sooner of two alarms for someone who looks at an instant: what was due before it is
as late as what is due then. Of two that are due at once it is the first. -/
def Alarm.sooner (now : Nat) : Option Alarm → Option Alarm → Option Alarm
  | some first, some other =>
    if max now other.due < max now first.due then some other else some first
  | some first, none => some first
  | none, other? => other?

/-- A client at work on its clock. -/
structure Timeline where
  client : Client
  now : Nat := 0
  playing : Option Playing := none
  /-- The scripts of requests not opened yet. Beyond them requests stay silent. -/
  scripts : List Script
  /-- When requests were opened, newest first. -/
  opens : List Nat := []
  /-- What was to be done and when, newest first. -/
  effects : List (Nat × Effect) := []

namespace Timeline

/-- The wall clock beside the timeline's own. -/
def moment (timeline : Timeline) : Moment := { now := timeline.now, wall := 0 }

/-- Carries out one action. -/
def carryOut (timeline : Timeline) (action : Action) : Timeline :=
  match action with
  | .effect effect => { timeline with effects := (timeline.now, effect) :: timeline.effects }
  | .openRequest =>
    { timeline with
      playing := some { script := timeline.scripts.headD {}, since := timeline.now }
      scripts := timeline.scripts.tail
      opens := timeline.now :: timeline.opens }

/-- Takes over a client and carries out its actions. -/
def follow (timeline : Timeline) (result : Client × List Action) : Timeline :=
  let timeline := result.2.foldl carryOut { timeline with client := result.1 }
  if timeline.client.request.isNone then { timeline with playing := none } else timeline

/-- The instant of an alarm, with what the open request delivers after it. -/
def wake (timeline : Timeline) (alarm : Alarm) : Timeline :=
  { timeline with now := max timeline.now alarm.due, playing := alarm.playing }

/-- What the open request delivers next. -/
def arrival? (timeline : Timeline) : Option Alarm := do
  let playing ← timeline.playing
  let due ← playing.due?
  let (arrival, rest) := playing.next (max timeline.now due)
  pure { due, cause := .arrival arrival, playing := some rest }

/-- The watchdog, if it is armed. -/
def watchdog? (timeline : Timeline) : Option Alarm :=
  timeline.client.connection.watchdog.deadline.map fun due =>
    { due, cause := .watchdog, playing := timeline.playing }

/-- The next attempt, if one is planned. -/
def retry? (timeline : Timeline) : Option Alarm :=
  timeline.client.connection.retryAt?.map fun due =>
    { due, cause := .retry, playing := timeline.playing }

/-- The next thing to wake the client. Of two things due at once the open request comes
first, then the watchdog, then the retry. -/
def alarm? (timeline : Timeline) : Option Alarm :=
  Alarm.sooner timeline.now
    (Alarm.sooner timeline.now timeline.arrival? timeline.watchdog?) timeline.retry?

/-- Lets the clock run, turn by turn, up to an instant. Turns due at that instant are
not taken any more. At most `fuel` turns are taken. -/
def runUntil (stopAt : Nat) : Nat → Timeline → Except InitializationError Timeline
  | 0, timeline => .ok timeline
  | fuel + 1, timeline =>
    match timeline.alarm? with
    | none => .ok { timeline with now := stopAt }
    | some alarm =>
      if max timeline.now alarm.due < stopAt then do
        let woken := timeline.wake alarm
        let result ← woken.client.turn alarm.cause woken.moment
        runUntil stopAt fuel (woken.follow result)
      else .ok { timeline with now := stopAt }

/-- How many turns a script can take before an instant: every delivery is one, and
with a timeout of at least a millisecond there are no more than two others for every
request and millisecond. -/
def turnBound (scripts : List Script) (stopAt : Nat) : Nat :=
  3 * ((scripts.flatMap (·.deliveries)).length + scripts.length + stopAt + 1)

/-- Plays a client from its start to an instant and stops it there. -/
def play (connection : Connection) (scripts : List Script) (stopAt : Nat) :
    Except InitializationError (Timeline × Connection) := do
  let opening ← Client.start connection { now := 0, wall := 0 }
  let timeline : Timeline := { client := opening.1, scripts }
  let played ← runUntil stopAt (turnBound scripts stopAt) (timeline.follow opening)
  let (stopped, actions) := played.client.stop
  pure (actions.foldl carryOut played, stopped)

end Timeline

end TreeWatch
