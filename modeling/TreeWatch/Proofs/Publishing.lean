/-
This file proves what publishing does. Something sent to the server is either refused, and
then nothing has changed, or it stands for exactly one snapshot, which becomes the newest one
and is what the answer reports (`ingestion_all_or_nothing`). No entity of a published snapshot
can bear the name of the time: a log message names entities by numbers, and in an object that
name is the time. So what the stream writes is decoded to the very snapshot.
-/

import TreeWatch.Proofs.Boundaries
import TreeWatch.Server

namespace TreeWatch

open Snapshot (timestampKey)

/-! ### What a body stands for -/

/-- The snapshot that a body sent to a path stands for, by the clock at its arrival. A log
message stands for the snapshot it describes. An object that has a time is read like any text
of a snapshot, and one that has none is a snapshot of this instant. -/
inductive Route.Converts (clock : Int64) (body : Bytes) : Route → Snapshot → Prop where
  | log {log : TickLog} {snapshot : Snapshot} (parsed : TickLog.parse body = .ok log)
      (valid : log.toSnapshot = .ok snapshot) : Converts clock body .log snapshot
  | timed {members : Entries Json} {snapshot : Snapshot}
      (object : Json.read body = .ok (.object members))
      (time : timestampKey ∈ members.map Prod.fst)
      (parsed : Snapshot.parse body = .ok snapshot) : Converts clock body .snapshot snapshot
  | untimed {members : Entries Json} (object : Json.read body = .ok (.object members))
      (timeless : timestampKey ∉ members.map Prod.fst) :
      Converts clock body .snapshot
        ⟨clock, .ofList (members.map fun member => (member.1, .ofJson member.2))⟩

namespace Ingestion

variable {clock : Int64} {body : Bytes} {members : Entries Json} {snapshot : Snapshot}

theorem ofLog_eq_ok_iff :
    (∃ notice, ofLog body = .ok (snapshot, notice)) ↔ Route.Converts clock body .log snapshot := by
  unfold ofLog
  constructor
  · rintro ⟨notice, done⟩
    cases parsed : TickLog.parse body with
    | error fault =>
      simp only [parsed] at done
      cases done
    | ok log =>
      simp only [parsed] at done
      cases valid : log.toSnapshot with
      | error error =>
        simp only [valid] at done
        cases done
      | ok described =>
        simp only [valid] at done
        obtain rfl := (Prod.mk.inj (Except.ok.inj done)).1
        exact .log parsed valid
  · rintro ⟨parsed, valid⟩
    simp only [parsed, valid]
    exact ⟨_, rfl⟩

theorem stamped_timed (clock : Int64) (time : timestampKey ∈ members.map Prod.fst) :
    stamped clock members = members := by
  rw [stamped, if_pos (Entries.isSome_lookup_iff.mpr time)]

/-- Without a time of its own an object is a snapshot of the instant on the clock. -/
theorem ofValue_untimed (clock : Int64) (timeless : timestampKey ∉ members.map Prod.fst) :
    Stream.ofValue (.object (stamped clock members)) =
      .ok ⟨clock, .ofList (members.map fun member => (member.1, .ofJson member.2))⟩ := by
  have absent : ¬ (members.lookup timestampKey).isSome = true :=
    fun found => timeless (Entries.isSome_lookup_iff.mp found)
  rw [stamped, if_neg absent, Stream.ofValue, Snapshot.ofMembers?, Entries.lookup_put, if_pos rfl]
  simp only [Snapshot.int64?_toInt, Option.map_some, Entries.filter_put timeless]

theorem ofSnapshot_eq_ok_iff :
    (∃ notice, ofSnapshot clock body = .ok (snapshot, notice)) ↔
      ∃ value, Json.read body = .ok value ∧
        Stream.ofValue (stampedValue clock value) = .ok snapshot := by
  unfold ofSnapshot
  constructor
  · rintro ⟨notice, done⟩
    cases read : Json.read body with
    | error fault =>
      simp only [read] at done
      cases done
    | ok value =>
      simp only [read] at done
      cases taken : Stream.ofValue (stampedValue clock value) with
      | error error =>
        simp only [taken] at done
        cases done
      | ok found =>
        simp only [taken] at done
        obtain rfl := (Prod.mk.inj (Except.ok.inj done)).1
        exact ⟨value, rfl, taken⟩
  · rintro ⟨value, read, taken⟩
    simp only [read, taken]
    exact ⟨_, rfl⟩

theorem ofSnapshot_converts_iff : (∃ notice, ofSnapshot clock body = .ok (snapshot, notice)) ↔
    Route.Converts clock body .snapshot snapshot := by
  rw [ofSnapshot_eq_ok_iff]
  constructor
  · rintro ⟨value, read, taken⟩
    cases value with
    | object members =>
      by_cases time : timestampKey ∈ members.map Prod.fst
      · rw [stampedValue, stamped_timed clock time] at taken
        exact .timed read time (Stream.parse_eq_ok_iff.mpr ⟨_, read, taken⟩)
      · rw [stampedValue, ofValue_untimed clock time] at taken
        obtain rfl := Except.ok.inj taken
        exact .untimed read time
    | _ => cases taken
  · rintro (_ | ⟨read, time, parsed⟩ | ⟨read, timeless⟩)
    · obtain ⟨value, same, taken⟩ := Stream.parse_eq_ok_iff.mp parsed
      obtain rfl := Except.ok.inj (same.symm.trans read)
      refine ⟨_, read, ?_⟩
      rw [stampedValue, stamped_timed clock time]
      exact taken
    · exact ⟨_, read, ofValue_untimed clock timeless⟩

end Ingestion

/-! ### No entity is named like the time -/

theorem unnamed_ofList {pairs : List (EntityId × Status)}
    (others : ∀ pair ∈ pairs, pair.1 ≠ timestampKey) :
    timestampKey ∉ (SortedMap.ofList pairs).keys := by
  intro among
  obtain ⟨pair, member, equal⟩ := List.mem_map.mp among
  exact others pair (Entries.mem_of_mem_ofPairs member) equal

theorem unnamed_ofMembers {members : Entries Json} {snapshot : Snapshot}
    (read : Snapshot.ofMembers? members = some snapshot) :
    timestampKey ∉ snapshot.statuses.keys := by
  unfold Snapshot.ofMembers? at read
  split at read
  · next time found =>
    obtain ⟨timestamp, _, rfl⟩ := Option.map_eq_some_iff.mp read
    refine unnamed_ofList fun pair member => ?_
    obtain ⟨given, kept, rfl⟩ := List.mem_map.mp member
    exact bne_iff_ne.mp (List.mem_filter.mp kept).2
  · cases read

theorem unnamed_parse {body : Bytes} {snapshot : Snapshot}
    (parsed : Snapshot.parse body = .ok snapshot) : timestampKey ∉ snapshot.statuses.keys := by
  obtain ⟨value, _, taken⟩ := Stream.parse_eq_ok_iff.mp parsed
  obtain ⟨members, rfl⟩ := Stream.object_of_ofValue taken
  rw [Stream.ofValue] at taken
  cases read : Snapshot.ofMembers? members with
  | some found =>
    simp only [read] at taken
    obtain rfl := Except.ok.inj taken
    exact unnamed_ofMembers read
  | none =>
    simp only [read] at taken
    cases taken

/-- No number is written like the name of the time. -/
theorem repr_ne_timestampKey (number : Nat) : number.repr ≠ timestampKey := by
  intro equal
  have letter : 't' ∈ number.repr.toList := equal ▸ show 't' ∈ timestampKey.toList by decide
  exact absurd (Json.isDigit_of_mem_repr letter) (by decide)

namespace TickLog

theorem unnamed_paintChange {snapshot : Snapshot} (unnamed : timestampKey ∉ snapshot.statuses.keys)
    (change : StatusChange) : timestampKey ∉ (paintChange snapshot change).statuses.keys := by
  unfold paintChange
  split
  · -- An entity of a log message is named by its number.
    next uid state _ _ =>
    have other : timestampKey ≠ toString uid.toNat := Ne.symm (repr_ne_timestampKey uid.toNat)
    rw [SortedMap.mem_keys_iff, Snapshot.withStatus, SortedMap.get?_insert, if_neg other,
      ← SortedMap.mem_keys_iff]
    exact unnamed
  · exact unnamed

theorem unnamed_painted {snapshot : Snapshot} (unnamed : timestampKey ∉ snapshot.statuses.keys)
    (changes : List StatusChange) :
    timestampKey ∉ (changes.foldl paintChange snapshot).statuses.keys := by
  induction changes generalizing snapshot with
  | nil => exact unnamed
  | cons change changes inductionHypothesis =>
    exact inductionHypothesis (unnamed_paintChange unnamed change)

theorem unnamed_toSnapshot {log : TickLog} {snapshot : Snapshot}
    (valid : log.toSnapshot = .ok snapshot) : timestampKey ∉ snapshot.statuses.keys := by
  unfold toSnapshot at valid
  cases checked : log.validate with
  | error error =>
    rw [checked] at valid
    cases valid
  | ok =>
    rw [checked] at valid
    obtain rfl := Except.ok.inj valid
    exact unnamed_painted List.not_mem_nil log.changes

end TickLog

theorem Route.Converts.unnamed {route : Route} {clock : Int64} {body : Bytes}
    {snapshot : Snapshot} (converts : route.Converts clock body snapshot) :
    timestampKey ∉ snapshot.statuses.keys := by
  cases converts with
  | log _ valid => exact TickLog.unnamed_toSnapshot valid
  | timed _ _ parsed => exact unnamed_parse parsed
  | untimed _ timeless =>
    refine unnamed_ofList fun pair member equal => ?_
    obtain ⟨given, among, rfl⟩ := List.mem_map.mp member
    exact timeless (equal ▸ List.mem_map_of_mem among)

namespace Server

open Http

/-! ### What a request does -/

/-- Something asked of the server, and what its clocks show then. -/
structure Call where
  request : Request
  /-- Milliseconds. -/
  now : Nat
  /-- Nanoseconds since 1970. -/
  clock : Int64

def answer (server : Server) (call : Call) : Response :=
  (server.handle call.request call.now call.clock).2.1

/-- The server after some calls. -/
def run (server : Server) (calls : List Call) : Server :=
  calls.foldl (fun server call => (server.handle call.request call.now call.clock).1) server

theorem run_concat (server : Server) (calls : List Call) (call : Call) :
    server.run (calls ++ [call]) =
      ((server.run calls).handle call.request call.now call.clock).1 := by
  rw [run, List.foldl_append]
  rfl

/-- The server with a newer snapshot on its board. -/
def showing (server : Server) (snapshot : Snapshot) : Server :=
  { server with board := { server.board with latest := some snapshot } }

/-- What may come of something sent to the server: it stands for no snapshot and is refused,
or it stands for one and that is published. -/
inductive Settled (server : Server) (converts : Snapshot → Prop) :
    Server × Response × List Notice → Prop where
  | refused (refusal : Refusal) (nothing : ∀ snapshot, ¬ converts snapshot) :
      Settled server converts (server, refused refusal, [])
  | published {snapshot : Snapshot} (notices : List Notice)
      (only : ∀ other, converts other ↔ other = snapshot) :
      Settled server converts (server.showing snapshot, published snapshot, notices)

variable (server : Server) {route : Route} {request : Request} {body : Bytes} (now : Nat)
  (clock : Int64)

theorem settled_ingest {result : Except Refusal (Snapshot × Notice)}
    (meant : ∀ snapshot, (∃ notice, result = .ok (snapshot, notice)) ↔
      route.Converts clock body snapshot) :
    server.Settled (route.Converts clock body) (server.ingest result) := by
  cases result with
  | error refusal =>
    refine .refused refusal fun snapshot converts => ?_
    obtain ⟨notice, impossible⟩ := (meant snapshot).mpr converts
    cases impossible
  | ok outcome =>
    obtain ⟨snapshot, notice⟩ := outcome
    refine .published _ fun other => ⟨fun converts => ?_, ?_⟩
    · obtain ⟨_, same⟩ := (meant other).mpr converts
      exact (Prod.mk.inj (Except.ok.inj same)).1.symm
    · rintro rfl
      exact (meant other).mp ⟨notice, rfl⟩

theorem settled_serve (ingests : route.isIngestion = true) (fits : body.length ≤ bodyLimit) :
    server.Settled (route.Converts clock body) (server.serve route body now clock) := by
  cases route with
  | log =>
    rw [serve, if_neg (Nat.not_lt.mpr fits)]
    exact server.settled_ingest clock fun _ => Ingestion.ofLog_eq_ok_iff
  | snapshot =>
    rw [serve, if_neg (Nat.not_lt.mpr fits)]
    exact server.settled_ingest clock fun _ => Ingestion.ofSnapshot_converts_iff
  | _ => cases ingests

theorem settled_handle (path : Route.ofPath? request.path = some route)
    (ingests : route.isIngestion = true) (post : request.method = "POST")
    (fits : request.body.length ≤ bodyLimit) :
    server.Settled (route.Converts clock request.body) (server.handle request now clock) := by
  rw [handle, path, post, if_neg (by decide)]
  simp only [ingests, if_true]
  exact server.settled_serve now clock ingests fits

/-- What a request can make of the server: nothing else, or one that shows what some body
stands for. -/
inductive Leaves (server : Server) : Server → Prop where
  | same : Leaves server server
  | showing {route : Route} {clock : Int64} {body : Bytes} {snapshot : Snapshot}
      (converts : route.Converts clock body snapshot) : Leaves server (server.showing snapshot)

theorem leaves_serve (route : Route) (body : Bytes) :
    server.Leaves (server.serve route body now clock).1 := by
  by_cases taken : route.isIngestion = true ∧ body.length ≤ bodyLimit
  · have settled := server.settled_serve now clock taken.1 taken.2
    generalize server.serve route body now clock = outcome at settled ⊢
    cases settled with
    | refused => exact .same
    | published notices only => exact .showing ((only _).mpr rfl)
  · have unchanged : (server.serve route body now clock).1 = server := by
      cases route with
      | log | snapshot => rw [serve, if_pos (Nat.not_le.mp fun fits => taken ⟨rfl, fits⟩)]
      | _ => rfl
    rw [unchanged]
    exact .same

theorem leaves_handle (request : Request) :
    server.Leaves (server.handle request now clock).1 := by
  unfold handle
  cases Route.ofPath? request.path with
  | none => split <;> exact .same
  | some route =>
    dsimp only
    split
    · exact .same
    · split
      · split
        · exact server.leaves_serve now clock route request.body
        · exact .same
      · split
        · exact server.leaves_serve now clock route []
        · split
          · exact server.leaves_serve now clock route []
          · exact .same

variable {server}

/-- After any requests no entity of the newest snapshot is named like the time. -/
theorem unnamed_run (fresh : server.board.latest = none) (calls : List Call)
    {snapshot : Snapshot} (newest : (server.run calls).board.latest = some snapshot) :
    timestampKey ∉ snapshot.statuses.keys := by
  induction calls using List.reverseRecOn with
  | nil =>
    rw [run, List.foldl_nil, fresh] at newest
    cases newest
  | append_singleton calls call inductionHypothesis =>
    rw [run_concat] at newest
    have leaves := (server.run calls).leaves_handle call.now call.clock call.request
    generalize ((server.run calls).handle call.request call.now call.clock).1 = after
      at leaves newest
    cases leaves with
    | same => exact inductionHypothesis newest
    | showing converts =>
      obtain rfl := Option.some.inj newest
      exact converts.unnamed

/-! ### What listeners read -/

/-- What a listener of the status stream holds: the body of the answer, or what reading has
left of it. -/
inductive Listening : Body → Prop where
  | opened (server : Server) {call : Call} (get : call.request.method = "GET")
      (path : Route.ofPath? call.request.path = some .statuses) :
      Listening (server.answer call).body
  | resumed {body : Body} (listening : Listening body) (board : Board) (now stopAt : Nat) :
      Listening (read board body now stopAt).2.1

theorem answer_statuses (server : Server) {call : Call} (get : call.request.method = "GET")
    (path : Route.ofPath? call.request.path = some .statuses) :
    (server.answer call).body = .statuses (.start call.now server.emitInterval) := by
  rw [answer, handle, path, get, if_neg (by decide)]
  rfl

theorem Listening.exists_ticker {body : Body} (listening : Listening body) :
    ∃ ticker, body = .statuses ticker := by
  induction listening with
  | opened server get path => exact ⟨_, server.answer_statuses get path⟩
  | resumed _ board now stopAt inductionHypothesis =>
    obtain ⟨ticker, rfl⟩ := inductionHypothesis
    exact ⟨_, rfl⟩

/-- Listeners get this snapshot. Whatever a stream writes is its text, which is decoded to it,
and who opens a stream gets it at once. -/
structure Streams (server : Server) (snapshot : Snapshot) : Prop where
  decoded : Stream.decodeLatest (Utf8.encode snapshot.wire) = .ok ⟨snapshot, 0⟩
  written : ∀ body, Listening body → ∀ now stopAt,
    ∀ text ∈ (read server.board body now stopAt).1, text = snapshot.wire
  prompt : ∀ call : Call, call.request.method = "GET" →
    Route.ofPath? call.request.path = some .statuses → ∀ stopAt, call.now ≤ stopAt →
      snapshot.wire ∈ (read server.board (server.answer call).body call.now stopAt).1

theorem read_statuses {snapshot : Snapshot} (newest : server.board.latest = some snapshot)
    (ticker : Ticker) (now stopAt : Nat) :
    (read server.board (.statuses ticker) now stopAt).1 =
      List.replicate (ticker.ticks now stopAt).1.length snapshot.wire := by
  rw [← List.map_const', List.map_eq_flatMap]
  simp only [read, written, newest]
  rfl

theorem streams_of_unnamed {snapshot : Snapshot} (newest : server.board.latest = some snapshot)
    (unnamed : timestampKey ∉ snapshot.statuses.keys) : server.Streams snapshot where
  decoded := Stream.decodeLatest_wire_eq_ok_iff.mpr unnamed
  written body listening now stopAt text member := by
    obtain ⟨ticker, rfl⟩ := listening.exists_ticker
    rw [read_statuses newest] at member
    exact List.eq_of_mem_replicate member
  prompt call get path stopAt later := by
    rw [server.answer_statuses get path, read_statuses newest, List.mem_replicate]
    refine ⟨?_, rfl⟩
    have due : max call.now (Ticker.start call.now server.emitInterval).due ≤ stopAt := by
      rw [Ticker.start, max_self]
      exact later
    rw [Ticker.ticks, dif_pos due]
    exact nofun

/-! ### Publishing -/

/-- After any requests to a server that started without a snapshot, something sent to it is
answered in one of two ways. If it is refused nothing has changed. If it is accepted it stands
for a snapshot, which is now the newest one, nothing else has changed, and the answer tells
its time and the number of its entities. It is accepted whenever it stands for a snapshot, and
only what stands for one is ever streamed, so listeners can decode what they get. -/
theorem ingestion_all_or_nothing (server : Server) (fresh : server.board.latest = none)
    (earlier : List Call) (call : Call) (route : Route)
    (path : Route.ofPath? call.request.path = some route) (ingests : route.isIngestion = true)
    (post : call.request.method = "POST") (fits : call.request.body.length ≤ bodyLimit) :
    let before := server.run earlier
    let after := server.run (earlier ++ [call])
    let response := before.answer call
    (response.status = 200 ∨ response.status = 400) ∧
      (response.status = 400 → after = before) ∧
      (response.status = 200 ↔ ∃ snapshot, route.Converts call.clock call.request.body snapshot) ∧
      (∀ snapshot, route.Converts call.clock call.request.body snapshot →
        after = { before with board := { before.board with latest := some snapshot } } ∧
        response.body = .text ("\x7b\"timestamp\":" ++ toString snapshot.timestamp.toInt ++
          ",\"entities\":" ++ toString snapshot.statuses.size ++ "\x7d")) ∧
      ∀ snapshot, after.board.latest = some snapshot →
        timestampKey ∉ snapshot.statuses.keys ∧ after.Streams snapshot := by
  intro before after response
  have settled := before.settled_handle call.now call.clock path ingests post fits
  have streams : ∀ snapshot, after.board.latest = some snapshot →
      timestampKey ∉ snapshot.statuses.keys ∧ after.Streams snapshot := fun snapshot newest =>
    have unnamed := unnamed_run fresh (earlier ++ [call]) newest
    ⟨unnamed, streams_of_unnamed newest unnamed⟩
  have done : after = (before.handle call.request call.now call.clock).1 :=
    server.run_concat earlier call
  have answered : response = (before.handle call.request call.now call.clock).2.1 := rfl
  rw [← and_assoc, ← and_assoc, ← and_assoc]
  refine ⟨?_, streams⟩
  rw [done, answered]
  generalize before.handle call.request call.now call.clock = outcome at settled ⊢
  cases settled with
  | refused refusal nothing =>
    exact ⟨⟨⟨Or.inr rfl, fun _ => rfl⟩, nofun, fun ⟨snapshot, converts⟩ =>
      absurd converts (nothing snapshot)⟩, fun snapshot converts =>
      absurd converts (nothing snapshot)⟩
  | published notices only =>
    refine ⟨⟨⟨Or.inl rfl, nofun⟩, fun _ => ⟨_, (only _).mpr rfl⟩, fun _ => rfl⟩,
      fun snapshot converts => ?_⟩
    obtain rfl := (only snapshot).mp converts
    exact ⟨rfl, rfl⟩

/-- A snapshot without a time is followed by one whose time is no number. -/
theorem ingestion_all_or_nothing_refused :
    let sent (text : String) (clock : Int64) : Call :=
      { request := { method := "POST", target := "/api/snapshot", body := Utf8.encode text }
        now := 0, clock }
    let timeless := sent "\x7b\"pump\":\"#0f0\"\x7d" 5
    let unusable := sent "\x7b\"timestamp\":\"6\"\x7d" 6
    let before := run { emitInterval := 1000 } [timeless]
    before.board.latest = some ⟨5, .ofList [("pump", .value "#0f0")]⟩ ∧
      (before.answer unusable).status = 400 ∧
      (before.handle unusable.request unusable.now unusable.clock).1 = before := by
  intro sent timeless unusable before
  have refused : (before.answer unusable).status = 400 := by decide +kernel
  obtain ⟨_, unchanged, _⟩ := ingestion_all_or_nothing { emitInterval := 1000 } rfl [timeless]
    unusable .snapshot (by decide) rfl rfl (by decide)
  exact ⟨by decide +kernel, refused, unchanged refused⟩

end Server

end TreeWatch
