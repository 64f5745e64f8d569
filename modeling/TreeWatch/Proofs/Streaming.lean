/-
This file proves that a stream of snapshots reaches the display however it is cut. The
octets that arrived on a request, if they are the beginning of some snapshots written one
after the other, are some complete snapshots and a piece of the next (`exists_arrived`).
After every chunk the connection shows the last complete one and keeps it with the piece,
and the request goes on (`feed_shows_newest`).

The invariant carried from chunk to chunk is `Fed`; it rests on the one of compaction,
by which the octets kept decode like all octets that arrived.
-/

import TreeWatch.Proofs.Compaction
import TreeWatch.Proofs.Resync

namespace TreeWatch

/-! ### Snapshots one after the other -/

/-- The octets of some snapshots, one after the other. -/
def wires (snapshots : List Snapshot) : Bytes :=
  snapshots.flatMap fun snapshot => Utf8.encode snapshot.wire

/-- The octets are a piece of the first of these snapshots that lacks its end; where there
is no snapshot there are no octets. -/
def CutShort (piece : Bytes) : List Snapshot → Prop
  | [] => piece = []
  | next :: _ => piece <+: Utf8.encode next.wire ∧ piece ≠ Utf8.encode next.wire

/-- The octets that arrived are the first few snapshots and a piece of the next. -/
def Arrived (snapshots : List Snapshot) (received : Bytes) (complete : List Snapshot)
    (piece : Bytes) : Prop :=
  received = wires complete ++ piece ∧ ∃ later, snapshots = complete ++ later ∧
    CutShort piece later

theorem wires_append (first second : List Snapshot) :
    wires (first ++ second) = wires first ++ wires second :=
  List.flatMap_append

section Cut

variable {piece part : Bytes} {later : List Snapshot}

theorem CutShort.shorter (short : CutShort piece later) (early : part <+: piece) :
    CutShort part later := by
  cases later with
  | nil => exact List.prefix_nil.mp (show part <+: [] from short ▸ early)
  | cons next later =>
    refine ⟨early.trans short.1, ?_⟩
    rintro rfl
    exact short.2 (short.1.eq_of_length_le early.length_le)

/-- There is always a snapshot that such a piece is cut from. -/
theorem CutShort.exists_next (short : CutShort piece later) :
    ∃ next : Snapshot, piece <+: Utf8.encode next.wire ∧ piece ≠ Utf8.encode next.wire := by
  cases later with
  | nil =>
    obtain rfl : piece = [] := short
    exact ⟨{ timestamp := 0 }, List.nil_prefix, (wire_ne_nil _).symm⟩
  | cons next later => exact ⟨next, short⟩

/-- Any beginning of a stream of snapshots has arrived in this sense. -/
theorem exists_arrived {snapshots : List Snapshot} {received : Bytes}
    (stream : received <+: wires snapshots) :
    ∃ complete piece, Arrived snapshots received complete piece := by
  induction snapshots generalizing received with
  | nil => exact ⟨[], [], List.prefix_nil.mp stream, [], rfl, rfl⟩
  | cons snapshot snapshots inductionHypothesis =>
    have first : Utf8.encode snapshot.wire <+: wires (snapshot :: snapshots) :=
      List.prefix_append _ _
    by_cases whole : Utf8.encode snapshot.wire <+: received
    · obtain ⟨more, rfl⟩ := whole
      obtain ⟨complete, piece, rfl, later, rfl, short⟩ :=
        inductionHypothesis ((List.prefix_append_right_inj _).mp stream)
      exact ⟨snapshot :: complete, piece, (List.append_assoc ..).symm, later, rfl, short⟩
    · refine ⟨[], received, rfl, snapshot :: snapshots, rfl, ?_, ?_⟩
      · exact (List.prefix_or_prefix_of_prefix stream first).resolve_right whole
      · rintro rfl
        exact whole (List.prefix_rfl)

end Cut

namespace Connection

/-! ### What a connection makes of them -/

/-- What a connection has made of the octets of a request, compared with the connection
before the request: the last complete snapshot is shown and kept with the piece of the
next; before there is one only the piece is kept and nothing shown has changed. -/
def Shows (before after : Connection) (complete : List Snapshot) (piece : Bytes) : Prop :=
  match complete.getLast? with
  | none => after.buffer = piece ∧ after.lastApplied = before.lastApplied ∧
    after.standing = before.standing
  | some last => after.buffer = Utf8.encode last.wire ++ piece ∧
    after.lastApplied = some last ∧ after.standing.connected = true

/-- The connection after some chunks of a request, each reported at its moment. -/
def feed (connection : Connection) (generation : Nat) :
    List (Bytes × Moment) → Except InitializationError Connection
  | [] => .ok connection
  | (chunk, moment) :: chunks => do
    let (connection, _) ← connection.progress generation chunk moment
    connection.feed generation chunks

/-- What holds between two chunks of a request. -/
structure Fed (before : Connection) (generation : Nat) (snapshots : List Snapshot)
    (received : Bytes) (after : Connection) : Prop where
  current : after.isCurrent generation = true
  unplanned : after.retryAt? = none
  named : after.history.isInitialized = true
  kept : Stream.Kept received after.buffer
  shows : ∀ complete piece, Arrived snapshots received complete piece →
    before.Shows after complete piece

variable {before connection : Connection} {generation : Nat} {snapshots : List Snapshot}
  {received chunk : Bytes} (moment : Moment)

/-- One more chunk, which ends in the given piece behind the given snapshots. -/
theorem Fed.progress_arrived (fed : Fed before generation snapshots received connection)
    (unnamed : ∀ snapshot ∈ snapshots, Snapshot.timestampKey ∉ snapshot.statuses.keys)
    {complete : List Snapshot} {piece : Bytes}
    (arrived : Arrived snapshots (received ++ chunk) complete piece) :
    ∃ after effects, connection.progress generation chunk moment = .ok (after, effects) ∧
      after.isCurrent generation = true ∧ after.retryAt? = none ∧
      after.history.isInitialized = true ∧
      Stream.Kept (received ++ chunk) after.buffer ∧ before.Shows after complete piece := by
  obtain ⟨split, later, rfl, short⟩ := arrived
  obtain ⟨next, early, unfinished⟩ := short.exists_next
  have kept := fed.kept.append chunk
  rcases List.eq_nil_or_concat complete with rfl | ⟨older, last, rfl⟩
  · -- No snapshot is complete, so none was before this chunk.
    have whole : received ++ chunk = piece := split
    have waiting : Stream.decodeLatest (received ++ chunk) = .error .incomplete := by
      rw [whole]
      exact Stream.decodeLatest_cut early unfinished
    obtain ⟨_, shown, standing⟩ := fed.shows [] received
      ⟨rfl, later, rfl, short.shorter ⟨chunk, whole⟩⟩
    refine ⟨_, _, progress_incomplete moment fed.current (kept.failed waiting), fed.current,
      fed.unplanned, fed.named, kept, ?_, shown, standing⟩
    rw [← whole]
    exact kept.eq_of_incomplete waiting
  · have lastUnnamed := unnamed last (by simp)
    have stream : received ++ chunk =
        wires older ++ (Utf8.encode last.wire ++ piece) := by
      rw [split, List.concat_eq_append, wires_append, List.append_assoc]
      simp [wires]
    have newest : Stream.decodeLatest (received ++ chunk) = .ok ⟨last, (wires older).length⟩ := by
      rw [stream, Stream.decodeLatest_append _ (Stream.anchored_wire lastUnnamed piece),
        Stream.decodeLatest_wire lastUnnamed early unfinished, Except.map, Decoded.moved,
        Nat.zero_add]
    obtain ⟨history, standing, effects, done, named, live⟩ :=
      progress_taken moment fed.current fed.named kept newest
    have buffer : (received ++ chunk).drop (wires older).length =
        Utf8.encode last.wire ++ piece := by
      rw [stream]
      exact List.drop_left
    refine ⟨_, _, done, fed.current, fed.unplanned, named,
      (Stream.Kept.refl (received ++ chunk)).compact newest, ?_⟩
    rw [Shows, List.concat_eq_append, List.getLast?_concat]
    exact ⟨buffer, rfl, live⟩

theorem Fed.progress (fed : Fed before generation snapshots received connection)
    (unnamed : ∀ snapshot ∈ snapshots, Snapshot.timestampKey ∉ snapshot.statuses.keys)
    (stream : received ++ chunk <+: wires snapshots) :
    ∃ after effects, connection.progress generation chunk moment = .ok (after, effects) ∧
      Fed before generation snapshots (received ++ chunk) after := by
  obtain ⟨complete, piece, arrived⟩ := exists_arrived stream
  obtain ⟨after, effects, done, current, unplanned, named, kept, _⟩ :=
    fed.progress_arrived moment unnamed arrived
  refine ⟨after, effects, done, current, unplanned, named, kept, ?_⟩
  intro complete piece arrived
  obtain ⟨other, _, again, _, _, _, _, shows⟩ := fed.progress_arrived moment unnamed arrived
  rw [done] at again
  obtain ⟨rfl, _⟩ := Prod.mk.inj (Except.ok.inj again)
  exact shows

/-- The invariant holds after any chunks of the stream. -/
theorem Fed.feed (fed : Fed before generation snapshots received connection)
    (unnamed : ∀ snapshot ∈ snapshots, Snapshot.timestampKey ∉ snapshot.statuses.keys)
    {chunks : List (Bytes × Moment)}
    (stream : received ++ chunks.flatMap Prod.fst <+: wires snapshots) :
    ∃ after, connection.feed generation chunks = .ok after ∧
      Fed before generation snapshots (received ++ chunks.flatMap Prod.fst) after := by
  induction chunks generalizing received connection with
  | nil => exact ⟨connection, rfl, (List.append_nil received).symm ▸ fed⟩
  | cons head chunks inductionHypothesis =>
    obtain ⟨chunk, moment⟩ := head
    rw [List.flatMap_cons, ← List.append_assoc] at stream ⊢
    obtain ⟨between, effects, done, goes⟩ :=
      fed.progress moment unnamed ((List.prefix_append _ _).trans stream)
    obtain ⟨after, rest, arrives⟩ := inductionHypothesis goes stream
    refine ⟨after, ?_, arrives⟩
    rw [Connection.feed, done]
    exact rest

/-- A request on which nothing has arrived. -/
theorem fed_connect {opened : Connection} {effects : List Effect}
    (request : before.connect moment = .ok (opened, effects)) :
    Fed before opened.generation snapshots [] opened := by
  obtain ⟨ready, rfl⟩ := opened_of_connect request
  refine ⟨by simp [isCurrent], rfl, ready, .refl [], ?_⟩
  intro complete piece arrived
  obtain ⟨nothing, _⟩ := arrived
  obtain ⟨none, rfl⟩ := List.append_eq_nil_iff.mp nothing.symm
  cases complete with
  | nil => exact ⟨rfl, rfl, rfl⟩
  | cons snapshot complete =>
    exact absurd (List.append_eq_nil_iff.mp none).1 (wire_ne_nil snapshot)

/-- Snapshots written one after the other and cut into any chunks. After each chunk of the
request it is still wanted and no other attempt is planned; the last snapshot that is
complete is shown, and what is kept is that snapshot and the piece of the next. -/
theorem feed_shows_newest (before opened : Connection) (moment : Moment) (effects : List Effect)
    (request : before.connect moment = .ok (opened, effects)) (snapshots : List Snapshot)
    (unnamed : ∀ snapshot ∈ snapshots, Snapshot.timestampKey ∉ snapshot.statuses.keys)
    (chunks : List (Bytes × Moment)) (stream : chunks.flatMap Prod.fst <+: wires snapshots)
    (first later : List (Bytes × Moment)) (order : chunks = first ++ later) :
    ∃ after, opened.feed opened.generation first = .ok after ∧
      after.isCurrent opened.generation = true ∧ after.retryAt? = none ∧
      (∃ complete piece, Arrived snapshots (first.flatMap Prod.fst) complete piece) ∧
      ∀ complete piece, Arrived snapshots (first.flatMap Prod.fst) complete piece →
        before.Shows after complete piece := by
  have sofar : first.flatMap Prod.fst <+: wires snapshots := by
    rw [order, List.flatMap_append] at stream
    exact (List.prefix_append _ _).trans stream
  obtain ⟨after, done, fed⟩ := (fed_connect moment request).feed unnamed sofar
  exact ⟨after, done, fed.current, fed.unplanned, exists_arrived sofar, fed.shows⟩

/-- The first chunk stops between the two octets of an `é`, the second inside the key of
another snapshot. -/
theorem feed_shows_newest_cut_letter :
    let before := (new 100).run [(.track ["pump"], ⟨0, 0⟩)]
    let snapshot : Snapshot := { timestamp := -1, statuses := .ofList [("pump", .value "é")] }
    let chunks : List (Bytes × Moment) :=
      [(Utf8.encode "\x7b\"timestamp\":-1,\"pump\":\"" ++ [0xc3], ⟨5, 0⟩),
        ([0xa9] ++ Utf8.encode "\"\x7d\x7b\"ti", ⟨9, 1⟩)]
    ∃ opened effects after, before.connect ⟨0, 0⟩ = .ok (opened, effects) ∧
      opened.feed opened.generation chunks = .ok after ∧
      after.buffer = Utf8.encode snapshot.wire ++ Utf8.encode "\x7b\"ti" ∧
      after.lastApplied = some snapshot ∧ after.standing.connected = true := by
  intro before snapshot chunks
  let next : Snapshot := { timestamp := 2 }
  have unnamed : ∀ listed ∈ [snapshot, next],
      Snapshot.timestampKey ∉ listed.statuses.keys := by decide
  have stream : chunks.flatMap Prod.fst <+: wires [snapshot, next] :=
    ⟨Utf8.encode "mestamp\":2\x7d", by decide⟩
  obtain ⟨after, done, _, _, _, shows⟩ := feed_shows_newest before _ ⟨0, 0⟩ _ rfl
    [snapshot, next] unnamed chunks stream chunks [] (List.append_nil chunks).symm
  have short : Utf8.encode "\x7b\"ti" ≠ Utf8.encode next.wire := by decide
  exact ⟨_, _, after, rfl, done, shows [snapshot] (Utf8.encode "\x7b\"ti")
    ⟨by decide, [next], rfl, ⟨Utf8.encode "mestamp\":2\x7d", by decide⟩, short⟩⟩

end Connection

end TreeWatch
