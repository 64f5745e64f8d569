/-
This file is the status server as a function of its requests: which paths there are,
what each of them answers, and what a request changes. Only publishing changes
anything. A status stream writes the newest snapshot on every tick for as long as
somebody reads it; snapshots follow each other without anything in between.
-/

import TreeWatch.Board
import TreeWatch.Http
import TreeWatch.Ingestion
import TreeWatch.Page

namespace TreeWatch

/-- The server between two requests. -/
structure Server where
  board : Board := {}
  /-- Milliseconds between two writes to an open stream. -/
  emitInterval : Nat
  /-- The drawing on the index page. -/
  diagram : Option String := none

/-- What a path is for. -/
inductive Route where
  | index
  | statuses
  | entities
  | log
  | snapshot
  deriving DecidableEq, Repr

namespace Route

def ofPath? (path : String) : Option Route :=
  [("/", index), ("/msg", statuses), ("/api/entities", entities), ("/api/log", log),
    ("/api/snapshot", snapshot)].lookup path

/-- Whether something is sent to a path rather than read from it. -/
def isIngestion : Route → Bool
  | log | snapshot => true
  | index | statuses | entities => false

/-- The methods of a path, as they are listed. -/
def methods (route : Route) : String := if route.isIngestion then "POST" else "GET,HEAD"

end Route

namespace Server

open Http

/-- The longest body that is read, in octets. -/
def bodyLimit : Nat := 2097152

/-- The JSON text of a list of entities. -/
def entitiesText (entities : List EntityId) : String :=
  "[" ++ ",".intercalate (entities.map Json.quote) ++ "]"

/-- The answer to a successful publication. -/
def published (snapshot : Snapshot) : Response :=
  deliver 200 jsonContent (.text
    ("\x7b\"timestamp\":" ++ toString snapshot.timestamp.toInt ++ ",\"entities\":" ++
      toString snapshot.statuses.size ++ "\x7d"))

/-- The answer to something that cannot be published. -/
def refused (refusal : Refusal) : Response :=
  deliver 400 jsonContent (.text ("\x7b\"error\":" ++ Json.quote refusal.message ++ "\x7d"))

/-- Publishes what was sent, or refuses it and changes nothing. -/
def ingest (server : Server) (result : Except Refusal (Snapshot × Notice)) :
    Server × Response × List Notice :=
  match result with
  | .error refusal => (server, refused refusal, [])
  | .ok (snapshot, notice) =>
    let (board, notices) := server.board.publish snapshot
    ({ server with board }, published snapshot, notice :: notices)

/-- Answers a request to a path that has its method. The clocks show the milliseconds
that streams are timed by and the nanoseconds since 1970. -/
def serve (server : Server) (route : Route) (body : Bytes) (now : Nat) (clock : Int64) :
    Server × Response × List Notice :=
  match route with
  | .index => (server, deliver 200 pageContent (.text (Page.index server.diagram)), [])
  | .statuses =>
    (server, deliver 200 textContent (.statuses (.start now server.emitInterval)),
      [.info "Status stream opened" [("emit_interval_ms", toString server.emitInterval)]])
  | .entities =>
    (server, deliver 200 jsonContent (.text (entitiesText server.board.entities)), [])
  | .log =>
    if bodyLimit < body.length then (server, tooLarge, [])
    else server.ingest (Ingestion.ofLog body)
  | .snapshot =>
    if bodyLimit < body.length then (server, tooLarge, [])
    else server.ingest (Ingestion.ofSnapshot clock body)

/-- Answers a request. -/
def handle (server : Server) (request : Request) (now : Nat) (clock : Int64) :
    Server × Response × List Notice :=
  let route := Route.ofPath? request.path
  if request.method = "OPTIONS" then (server, permission (route.map Route.methods), [])
  else
    match route with
    | none => (server, notFound, [])
    | some route =>
      if route.isIngestion then
        if request.method = "POST" then server.serve route request.body now clock
        else (server, notAllowed route.methods, [])
      else if request.method = "GET" then server.serve route [] now clock
      else if request.method = "HEAD" then
        let (server, response, notices) := server.serve route [] now clock
        (server, response.withoutBody, notices)
      else (server, notAllowed route.methods, [])

/-! ### Reading a response -/

/-- What the stream writes on a tick: the newest snapshot, if there is one. -/
def written (board : Board) : List String := board.latest.toList.map Snapshot.wire

/-- What a response delivers to somebody who reads it from one instant up to and
including another, what it has left, and when the reader is done: at once if the
response has ended. -/
def read (board : Board) (body : Body) (now stopAt : Nat) : List String × Body × Nat :=
  match body with
  | .text content => (if content = "" then [] else [content], .text "", now)
  | .statuses ticker =>
    let (instants, ticker) := ticker.ticks now stopAt
    (instants.flatMap fun _ => written board, .statuses ticker, stopAt)

end Server

end TreeWatch
