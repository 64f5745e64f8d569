/-
This file drives a connection: it holds the one open request and turns what arrives,
the watchdog and the retry timer into events of the connection. It takes its turns one
at a time, so the connection never sees two things at once, and after every turn it
drops a request the connection no longer wants.
-/

import TreeWatch.Connection

namespace TreeWatch

/-- What the client has to do, in order. -/
inductive Action where
  /-- Open a new request; the one before it, if any, is dropped. -/
  | openRequest
  | effect (effect : Effect)

/-- What a request delivers. -/
inductive Arrival where
  | chunk (bytes : Bytes)
  | failed (error : RequestError)
  /-- The server completed the response. -/
  | ended

/-- What can wake the client. -/
inductive Turn where
  /-- The open request delivered something. -/
  | arrival (arrival : Arrival)
  /-- The watchdog's deadline is reached. -/
  | watchdog
  /-- The next attempt is due. -/
  | retry

/-- A connection together with the number of the open request, if there is one. -/
structure Client where
  connection : Connection
  request : Option Nat := none

namespace Client

/-- Opens a new request. -/
def connect (client : Client) (moment : Moment) :
    Except InitializationError (Client × List Action) := do
  let (connection, effects) ← client.connection.connect moment
  pure
    ({ connection, request := some connection.generation },
      effects.map .effect ++ [.openRequest])

/-- Starts a client on a connection whose entities have been named. -/
def start (connection : Connection) (moment : Moment) :
    Except InitializationError (Client × List Action) :=
  connect { connection } moment

/-- Drops the open request if it is no longer wanted. -/
def dropStale (client : Client) : Client :=
  match client.request with
  | some generation =>
    if client.connection.isCurrent generation then client else { client with request := none }
  | none => client

/-- Takes one turn. -/
def turn (client : Client) (cause : Turn) (moment : Moment) :
    Except InitializationError (Client × List Action) :=
  match cause with
  | .arrival arrival =>
    match client.request with
    | none => .ok (client, [])
    | some generation => do
      let (connection, effects) ← match arrival with
        | .chunk bytes => client.connection.progress generation bytes moment
        | .failed error => .ok (client.connection.requestError generation error moment)
        | .ended => .ok (client.connection.complete generation moment)
      pure ({ client with connection }.dropStale, effects.map .effect)
  | .watchdog =>
    let (connection, effects) := client.connection.watchdogDue moment
    .ok ({ client with connection }.dropStale, effects.map .effect)
  | .retry => client.connect moment

/-- Stops the client and gives up its connection. -/
def stop (client : Client) : Connection × List Action :=
  (client.connection.shutdown,
    [.effect (.record (.info "Live client stopped"
      [Connection.numbered client.connection.generation]))])

end Client

end TreeWatch
