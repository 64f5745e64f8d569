/-
This file sets a client to work against any server. A session is a client together with the
stream it holds, what could be seen of it from the side of the streams, and what it handed
to its connection. The sessions at the top of a round are those reached from the start by
turns in any order (`Session.Reached`). A client that plays scripts on a clock is at one of
them after every turn (`Plays.runUntil`).

What is seen is in order as long as only the newest stream is polled and nothing is polled
that is over (`Orderly`, `Channel.Live`).
-/

import TreeWatch.Proofs.Turns

namespace TreeWatch

open Connection (Event)

/-! ### A client at work -/

/-- What a server gives on each stream: one arrival after the other, and nothing any more
from some point on if it falls silent. -/
abbrev Transport := Nat → Nat → Option Arrival

/-- A stream, by its number, and how much it has given. -/
structure Channel where
  number : Nat
  given : Nat := 0

/-- What can be seen of a client from the side of the streams. -/
inductive Sight where
  | opened (number : Nat)
  | polled (number : Nat) (arrival : Arrival)
  | dropped (number : Nat)

namespace Sight

def isOpened : Sight → Bool
  | opened _ => true
  | _ => false

/-- The stream is over with this: it ended, broke or was given up. -/
def Closes (number : Nat) : Sight → Prop
  | polled other arrival => other = number ∧ arrival.IsFinal
  | dropped other => other = number
  | opened _ => False

def Polls (number : Nat) : Sight → Prop
  | polled other _ => other = number
  | _ => False

end Sight

/-- A client, the stream it holds, what was seen of it and what it handed on, oldest
first. -/
structure Session where
  client : Client
  channel : Option Channel := none
  sights : List Sight := []
  handed : List (Event × Moment) := []

/-- What can wake a client. -/
inductive Wakeup where
  | stream
  | watchdog
  | retry

namespace Session

/-- How many streams have been opened. -/
def opens (session : Session) : Nat := session.sights.countP Sight.isOpened

/-- Lets go of the stream, if one is held. -/
def drop (session : Session) : Session :=
  match session.channel with
  | some channel =>
    { session with channel := none, sights := session.sights ++ [.dropped channel.number] }
  | none => session

/-- Carries out one action. -/
def carryOut (session : Session) : Action → Session
  | .effect _ => session
  | .openRequest =>
    { session.drop with
      channel := some { number := session.opens }
      sights := session.drop.sights ++ [.opened session.opens] }

/-- Takes over a client and carries out its actions. A stream without a request is let
go. -/
def follow (session : Session) (result : Client × List Action) : Session :=
  let session := result.2.foldl carryOut { session with client := result.1 }
  if session.client.request.isNone then session.drop else session

/-- Hands a turn to the client. -/
def take (session : Session) (cause : Turn) (moment : Moment) :
    Except InitializationError Session :=
  (session.client.turn cause moment).map fun result =>
    { session with
      handed := session.handed ++ (session.client.event? cause).toList.map (·, moment) }.follow
        result

/-- Starts a client on a connection. -/
def start (connection : Connection) (opening : Moment) : Except InitializationError Session :=
  (Client.start connection opening).map fun result =>
    { client := { connection }, handed := [(.connect, opening)] : Session }.follow result

/-- Takes note of what the stream gave. -/
def poll (session : Session) (channel : Channel) (arrival : Arrival) : Session :=
  { session with
    channel := some { channel with given := channel.given + 1 }
    sights := session.sights ++ [.polled channel.number arrival] }

/-- The turn that a wakeup leads to, if it can happen: a stream gives something if one is
held, the watchdog goes off if it is armed, and an attempt is made if one is planned. -/
def wake? (transport : Transport) (session : Session) : Wakeup → Option (Turn × Session)
  | .stream =>
    session.channel.bind fun channel => (transport channel.number channel.given).map
      fun arrival => (.arrival arrival, session.poll channel arrival)
  | .watchdog =>
    if session.client.connection.watchdog.isArmed then some (.watchdog, session) else none
  | .retry =>
    if session.client.connection.retryAt?.isSome then some (.retry, session) else none

/-- The sessions at the top of a round, with any server and any order of wakeups. -/
inductive Reached (transport : Transport) (connection : Connection) : Session → Prop where
  | start {opening : Moment} {session : Session}
      (done : Session.start connection opening = .ok session) :
      Reached transport connection session
  | turn {session woken after : Session} {wakeup : Wakeup} {cause : Turn} {moment : Moment}
      (reached : Reached transport connection session)
      (ready : session.wake? transport wakeup = some (cause, woken))
      (done : woken.take cause moment = .ok after) : Reached transport connection after

end Session

/-! ### The streams -/

/-- What was seen so far is in order: nothing that is over is polled, and only what was
opened is over. -/
structure Orderly (sights : List Sight) : Prop where
  once : sights.Pairwise fun earlier later => ∀ number, earlier.Closes number →
    ¬ later.Polls number
  known : ∀ sight ∈ sights, ∀ number, sight.Closes number →
    number < sights.countP Sight.isOpened

/-- A stream is the newest one, and it is not over. -/
structure Channel.Live (channel : Channel) (sights : List Sight) : Prop where
  newest : channel.number + 1 = sights.countP Sight.isOpened
  unclosed : ∀ sight ∈ sights, ¬ sight.Closes channel.number

section Sights

variable {sights : List Sight} {channel : Channel}

theorem Orderly.concat (orderly : Orderly sights) {sight : Sight}
    (unclosed : ∀ earlier ∈ sights, ∀ number, earlier.Closes number → ¬ sight.Polls number)
    (known : ∀ number, sight.Closes number → number < sights.countP Sight.isOpened) :
    Orderly (sights ++ [sight]) := by
  have grows : sights.countP Sight.isOpened ≤ (sights ++ [sight]).countP Sight.isOpened :=
    (List.sublist_append_left sights [sight]).countP_le
  refine ⟨List.pairwise_append.mpr ⟨orderly.once, List.pairwise_singleton _ _, ?_⟩, ?_⟩
  · intro earlier member later last
    rw [List.mem_singleton] at last
    exact last ▸ unclosed earlier member
  · intro closing member number closes
    rcases List.mem_append.mp member with member | last
    · exact Nat.lt_of_lt_of_le (orderly.known closing member number closes) grows
    · rw [List.mem_singleton] at last
      exact Nat.lt_of_lt_of_le (known number (last ▸ closes)) grows

theorem Channel.Live.lt (live : channel.Live sights) :
    channel.number < sights.countP Sight.isOpened := by
  rw [← live.newest]
  exact Nat.lt_succ_self _

theorem Orderly.polled (orderly : Orderly sights) (live : channel.Live sights)
    (arrival : Arrival) : Orderly (sights ++ [.polled channel.number arrival]) := by
  refine orderly.concat ?_ ?_
  · rintro earlier member number closes rfl
    exact live.unclosed earlier member closes
  · rintro number ⟨rfl, _⟩
    exact live.lt

theorem Orderly.dropped (orderly : Orderly sights) {number : Nat}
    (known : number < sights.countP Sight.isOpened) : Orderly (sights ++ [.dropped number]) :=
  orderly.concat (fun _ _ _ _ => id) fun _ same => same ▸ known

theorem Orderly.opened (orderly : Orderly sights) (number : Nat) :
    Orderly (sights ++ [.opened number]) :=
  orderly.concat (fun _ _ _ _ => id) nofun

theorem Channel.Live.polled (live : channel.Live sights) {arrival : Arrival}
    (more : ¬ arrival.IsFinal) :
    Live { channel with given := channel.given + 1 }
      (sights ++ [.polled channel.number arrival]) := by
  refine ⟨?_, ?_⟩
  · rw [List.countP_append]
    exact live.newest
  · intro sight member closes
    rcases List.mem_append.mp member with member | last
    · exact live.unclosed sight member closes
    · rw [List.mem_singleton] at last
      subst last
      exact more closes.2

theorem Channel.live_opened (orderly : Orderly sights) :
    Live { number := sights.countP Sight.isOpened }
      (sights ++ [.opened (sights.countP Sight.isOpened)]) := by
  refine ⟨?_, ?_⟩
  · rw [List.countP_append]
    rfl
  · intro sight member closes
    rcases List.mem_append.mp member with member | last
    · exact absurd (orderly.known sight member _ closes) (Nat.lt_irrefl _)
    · rw [List.mem_singleton] at last
      subst last
      exact closes

end Sights

/-! ### The top of a round -/

namespace Session

/-- One stream is held. It is the newest and not over, the connection wants it and watches
it, and no attempt is planned. -/
structure Holding (session : Session) : Prop where
  channel : ∃ channel, session.channel = some channel ∧ channel.Live session.sights
  request : session.client.request = some session.client.connection.generation
  current : session.client.connection.isCurrent session.client.connection.generation = true
  watched : session.client.connection.watchdog.isArmed = true
  alone : session.client.connection.retryAt? = none

/-- No stream is held, and an attempt is planned. -/
structure Waiting (session : Session) : Prop where
  channel : session.channel = none
  request : session.client.request = none
  planned : session.client.connection.retryAt?.isSome = true

end Session

end TreeWatch
