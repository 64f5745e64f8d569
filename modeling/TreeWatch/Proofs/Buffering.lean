/-
This file measures what a request keeps of a stream of snapshots with blanks before, between
and behind them. While no snapshot is complete everything is kept, and from then on everything
from the newest one on (`Compacted`). So as long as the request goes on no more is kept than one
snapshot, one run of blanks and a piece of another snapshot; a chunk that breaks the request
stays behind those. A run of blanks is kept until a snapshot behind it is complete, so nothing
bounds the buffer if nothing bounds the run (`buffer_bounded_but_for_blanks`).
-/

import TreeWatch.Proofs.Boundaries

namespace TreeWatch

/-! ### Snapshots with blanks between them -/

/-- Octets that carry no meaning. -/
abbrev Blanks := { gap : Bytes // ∀ byte ∈ gap, Json.isBlank byte = true }

def lineBreaks (count : Nat) : Blanks :=
  ⟨List.replicate count 0x0a, fun byte member => by rw [List.eq_of_mem_replicate member]; rfl⟩

/-- A stream of snapshots: the blanks before the first one, and each with the blanks behind
it. -/
structure Spaced where
  lead : Blanks
  items : List (Snapshot × Blanks) := []

namespace Spaced

def bytes (stream : Spaced) : Bytes :=
  stream.lead.1 ++ stream.items.flatMap fun item => Utf8.encode item.1.wire ++ item.2.1

theorem bytes_cons (lead : Blanks) (snapshot : Snapshot) (gap : Blanks)
    (items : List (Snapshot × Blanks)) :
    bytes ⟨lead, (snapshot, gap) :: items⟩ =
      lead.1 ++ (Utf8.encode snapshot.wire ++ bytes ⟨gap, items⟩) := by
  rw [bytes, List.flatMap_cons, List.append_assoc]
  rfl

/-- No snapshot is longer than the one number says, and no run of blanks longer than the
other. -/
structure Within (stream : Spaced) (longest widest : Nat) : Prop where
  lead : stream.lead.1.length ≤ widest
  wires : ∀ item ∈ stream.items, (Utf8.encode item.1.wire).length ≤ longest
  gaps : ∀ item ∈ stream.items, item.2.1.length ≤ widest

end Spaced

/-- Blanks, and a piece of a snapshot that lacks its end. -/
structure Trailing (gap piece : Bytes) : Prop where
  blank : ∀ byte ∈ gap, Json.isBlank byte = true
  cut : ∃ next : Snapshot, piece <+: Utf8.encode next.wire ∧ piece ≠ Utf8.encode next.wire

theorem trailing_blank {gap : Bytes} (blank : ∀ byte ∈ gap, Json.isBlank byte = true) :
    Trailing gap [] :=
  ⟨blank, { timestamp := 0 }, List.nil_prefix, (wire_ne_nil _).symm⟩

/-- The octets of a stream that have arrived end in blanks and a piece. Before those stands a
whole snapshot, unless there was none yet. -/
theorem Spaced.Within.exists_trailing {stream : Spaced} {longest widest : Nat}
    (within : stream.Within longest widest) {received : Bytes}
    (early : received <+: stream.bytes) :
    ∃ gap piece, Trailing gap piece ∧ gap.length ≤ widest ∧ piece.length ≤ longest ∧
      (received = gap ++ piece ∨ ∃ front, ∃ item ∈ stream.items,
        received = front ++ (Utf8.encode item.1.wire ++ (gap ++ piece))) := by
  obtain ⟨lead, items⟩ := stream
  induction items generalizing lead received with
  | nil =>
    have part : received <+: lead.1 := by simpa [bytes] using early
    exact ⟨received, [], trailing_blank fun byte member => lead.2 byte (part.subset member),
      part.length_le.trans within.lead, Nat.zero_le _, Or.inl (List.append_nil _).symm⟩
  | cons item items inductionHypothesis =>
    obtain ⟨snapshot, gap⟩ := item
    have size := within.wires _ List.mem_cons_self
    rw [bytes_cons] at early
    -- What has arrived ends in the blanks in front, in the first snapshot or behind it.
    rcases List.prefix_or_prefix_of_prefix early (List.prefix_append _ _) with part | ⟨more, rfl⟩
    · exact ⟨received, [], trailing_blank fun byte member => lead.2 byte (part.subset member),
        part.length_le.trans within.lead, Nat.zero_le _, Or.inl (List.append_nil _).symm⟩
    · have next := (List.prefix_append_right_inj _).mp early
      by_cases whole : Utf8.encode snapshot.wire <+: more
      · obtain ⟨rest, rfl⟩ := whole
        have later : Within ⟨gap, items⟩ longest widest :=
          ⟨within.gaps _ List.mem_cons_self,
            fun item member => within.wires item (List.mem_cons_of_mem _ member),
            fun item member => within.gaps item (List.mem_cons_of_mem _ member)⟩
        obtain ⟨after, piece, trailing, narrow, short, split⟩ :=
          inductionHypothesis gap later ((List.prefix_append_right_inj _).mp next)
        refine ⟨after, piece, trailing, narrow, short, Or.inr ?_⟩
        rcases split with rfl | ⟨front, newest, member, rfl⟩
        · exact ⟨lead.1, _, List.mem_cons_self, rfl⟩
        · refine ⟨lead.1 ++ (Utf8.encode snapshot.wire ++ front), newest,
            List.mem_cons_of_mem _ member, ?_⟩
          rw [List.append_assoc, List.append_assoc]
      · have part := (List.prefix_or_prefix_of_prefix next (List.prefix_append _ _)).resolve_right
          whole
        refine ⟨lead.1, more, ⟨lead.2, snapshot, part, ?_⟩, within.lead,
          part.length_le.trans size, Or.inl rfl⟩
        rintro rfl
        exact whole List.prefix_rfl

namespace Stream

/-! ### What is kept -/

variable {received buffer : Bytes}

/-- What a request keeps of the octets delivered on it: all of them while it waits for a
snapshot, and those from the newest snapshot on once there is one. -/
inductive Compacted (received : Bytes) : Bytes → Prop where
  | waiting (nothing : decodeLatest received = .error .incomplete) : Compacted received received
  | holding {decoded : Decoded} (newest : decodeLatest received = .ok decoded) :
      Compacted received (received.drop decoded.offset)

theorem Compacted.kept (compacted : Compacted received buffer) : Kept received buffer := by
  cases compacted with
  | waiting => exact .refl received
  | holding newest => exact (Kept.refl received).compact newest

section Trailing

variable {gap piece : Bytes} (trailing : Trailing gap piece)

include trailing

theorem decodeLatest_trailing : decodeLatest (gap ++ piece) = .error .incomplete := by
  obtain ⟨next, early, short⟩ := trailing.cut
  exact decodeLatest_gap trailing.blank early short

theorem decodeLatest_newest (front : Bytes) (snapshot : Snapshot) :
    decodeLatest (front ++ (Utf8.encode snapshot.wire ++ (gap ++ piece))) =
      (ofValue (.object snapshot.members)).map (⟨·, front.length⟩) := by
  obtain ⟨next, early, short⟩ := trailing.cut
  rw [decodeLatest_append_complete front (startsHere_wire snapshot _)
    (snapshot.readFirst_wire _), decodeLatest_wire_gap trailing.blank early short]
  cases ofValue (.object snapshot.members) with
  | ok found => rw [Except.map, Except.map, Except.map, Decoded.moved, Nat.zero_add]
  | error error => rfl

/-- Before the first snapshot is complete everything is kept. -/
theorem Compacted.eq_of_trailing (compacted : Compacted (gap ++ piece) buffer) :
    buffer = gap ++ piece := by
  cases compacted with
  | waiting => rfl
  | holding newest =>
    rw [decodeLatest_trailing trailing] at newest
    cases newest

/-- So is everything from the newest snapshot on. -/
theorem Compacted.eq_of_newest {front : Bytes} {snapshot : Snapshot}
    (compacted : Compacted (front ++ (Utf8.encode snapshot.wire ++ (gap ++ piece))) buffer) :
    buffer = Utf8.encode snapshot.wire ++ (gap ++ piece) := by
  cases compacted with
  | waiting nothing =>
    rw [decodeLatest_newest trailing] at nothing
    exact absurd nothing (ofValue_ne_incomplete _ _)
  | @holding decoded newest =>
    rw [decodeLatest_newest trailing] at newest
    cases taken : ofValue (.object snapshot.members) with
    | ok found =>
      rw [taken] at newest
      obtain rfl := Except.ok.inj newest
      exact List.drop_left
    | error error =>
      rw [taken] at newest
      cases newest

end Trailing

section Blank

variable {gap : Bytes} (blank : ∀ byte ∈ gap, Json.isBlank byte = true)

include blank

theorem decodeLatest_blank : decodeLatest gap = .error .incomplete := by
  have waits := decodeLatest_trailing (trailing_blank blank)
  rw [List.append_nil] at waits
  exact waits

theorem Compacted.eq_of_blank (compacted : Compacted gap buffer) : buffer = gap := by
  rw [← List.append_nil gap] at compacted ⊢
  exact compacted.eq_of_trailing (trailing_blank blank)

theorem Compacted.eq_of_newest_blank {front : Bytes} {snapshot : Snapshot}
    (compacted : Compacted (front ++ (Utf8.encode snapshot.wire ++ gap)) buffer) :
    buffer = Utf8.encode snapshot.wire ++ gap := by
  rw [← List.append_nil gap] at compacted ⊢
  exact compacted.eq_of_newest (trailing_blank blank)

end Blank

theorem Compacted.length_le {stream : Spaced} {longest widest : Nat}
    (within : stream.Within longest widest) (early : received <+: stream.bytes)
    (compacted : Compacted received buffer) : buffer.length ≤ 2 * longest + widest := by
  obtain ⟨gap, piece, trailing, narrow, short, split⟩ := within.exists_trailing early
  rcases split with rfl | ⟨front, item, member, rfl⟩
  · rw [compacted.eq_of_trailing trailing, List.length_append]
    omega
  · have size := within.wires item member
    rw [compacted.eq_of_newest trailing, List.length_append, List.length_append]
    omega

end Stream

namespace Connection

open TreeWatch.Stream (Compacted)

/-! ### What a request keeps -/

variable {connection : Connection} {generation : Nat} {received chunk : Bytes}

/-- A wanted request on which some octets have arrived. -/
structure Holding (generation : Nat) (received : Bytes) (connection : Connection) : Prop where
  current : connection.isCurrent generation = true
  named : connection.history.isInitialized = true
  compacted : Compacted received connection.buffer

/-- A request that a chunk has broken. What was kept before the chunk still stands in the
buffer, and the chunk behind it. -/
def Broke (generation : Nat) (received chunk : Bytes) (connection : Connection) : Prop :=
  connection.isCurrent generation = false ∧
    (∃ error, Stream.decodeLatest (received ++ chunk) = .error error ∧
      error.isIncomplete = false) ∧
    ∃ kept, Compacted received kept ∧ connection.buffer = kept ++ chunk

theorem Holding.progress (holding : connection.Holding generation received) (chunk : Bytes)
    (moment : Moment) : ∃ after effects,
      connection.progress generation chunk moment = .ok (after, effects) ∧
        (after.Holding generation (received ++ chunk) ∨ after.Broke generation received chunk) := by
  have kept := holding.compacted.kept.append chunk
  cases read : Stream.decodeLatest (received ++ chunk) with
  | ok decoded =>
    obtain ⟨history, standing, effects, done, named, _⟩ :=
      progress_taken moment holding.current holding.named kept read
    exact ⟨_, _, done, Or.inl ⟨holding.current, named, .holding read⟩⟩
  | error error =>
    have near := kept.failed read
    cases more : error.isIncomplete with
    | true =>
      obtain rfl : error = .incomplete := by
        cases error <;> first | rfl | cases more
      have all : Compacted (received ++ chunk) (connection.buffer ++ chunk) := by
        rw [kept.eq_of_incomplete read]
        exact .waiting read
      exact ⟨_, _, progress_incomplete moment holding.current near,
        Or.inl ⟨holding.current, holding.named, all⟩⟩
    | false =>
      obtain ⟨standing, equal, _⟩ :=
        (connection.receive chunk moment).fail_eq moment (.decode error)
      refine ⟨_, _, progress_failed moment holding.current more near, Or.inr ⟨?_,
        ⟨error, read, more⟩, connection.buffer, holding.compacted, ?_⟩⟩
      · exact (connection.receive chunk moment).isCurrent_fail moment (.decode error) generation
      · rw [equal]
        rfl

/-- After any chunks the request is still wanted, or one of them has broken it. -/
theorem Holding.feed (holding : connection.Holding generation received)
    (chunks : List (Bytes × Moment)) :
    ∃ after, connection.feed generation chunks = .ok after ∧
      (after.Holding generation (received ++ chunks.flatMap Prod.fst) ∨
        ∃ first last, first ++ [last] <+: chunks ∧
          after.Broke generation (received ++ first.flatMap Prod.fst) last.1) := by
  induction chunks generalizing connection received with
  | nil => exact ⟨connection, rfl, Or.inl ((List.append_nil received).symm ▸ holding)⟩
  | cons head chunks inductionHypothesis =>
    obtain ⟨chunk, moment⟩ := head
    obtain ⟨between, effects, done, goes | broke⟩ := holding.progress chunk moment
    · obtain ⟨after, rest, outcome⟩ := inductionHypothesis goes
      refine ⟨after, ?_, ?_⟩
      · rw [Connection.feed, done]
        exact rest
      · rw [List.flatMap_cons, ← List.append_assoc]
        rcases outcome with goes | ⟨first, last, order, broke⟩
        · exact Or.inl goes
        · refine Or.inr ⟨(chunk, moment) :: first, last,
            List.cons_prefix_cons.mpr ⟨rfl, order⟩, ?_⟩
          rw [List.flatMap_cons, ← List.append_assoc]
          exact broke
    · -- The chunks that follow are about a request that is over.
      refine ⟨between, ?_, Or.inr ⟨[], (chunk, moment),
        List.cons_prefix_cons.mpr ⟨rfl, List.nil_prefix⟩, ?_⟩⟩
      · rw [Connection.feed, done]
        exact feed_stale broke.1 chunks
      · rw [List.flatMap_nil, List.append_nil]
        exact broke

theorem holding_connect {before opened : Connection} {moment : Moment} {effects : List Effect}
    (request : before.connect moment = .ok (opened, effects)) :
    opened.Holding opened.generation [] := by
  obtain ⟨ready, rfl⟩ := opened_of_connect request
  exact ⟨by simp [isCurrent], ready, .waiting rfl⟩

namespace Broke

variable (broke : connection.Broke generation received chunk)

include broke

theorem length_le {stream : Spaced} {longest widest : Nat}
    (within : stream.Within longest widest) (early : received ++ chunk <+: stream.bytes) :
    connection.buffer.length ≤ 2 * longest + widest + chunk.length := by
  obtain ⟨kept, compacted, buffer⟩ := broke.2.2
  have size := compacted.length_le within ((List.prefix_append _ _).trans early)
  rw [buffer, List.length_append]
  omega

theorem not_blank : ¬ ∀ byte ∈ received ++ chunk, Json.isBlank byte = true := by
  intro blank
  obtain ⟨error, read, hopeless⟩ := broke.2.1
  rw [Stream.decodeLatest_blank blank] at read
  obtain rfl := Except.error.inj read
  cases hopeless

/-- A chunk of a stream breaks the request only if it completes a snapshot of which an entity
is named like the time. -/
theorem exists_named {stream : Spaced} {longest widest : Nat}
    (within : stream.Within longest widest) (early : received ++ chunk <+: stream.bytes) :
    ∃ item ∈ stream.items, Snapshot.timestampKey ∈ item.1.statuses.keys := by
  obtain ⟨error, read, hopeless⟩ := broke.2.1
  obtain ⟨gap, piece, trailing, _, _, split | ⟨front, item, member, split⟩⟩ :=
    within.exists_trailing early
  · rw [split, Stream.decodeLatest_trailing trailing] at read
    obtain rfl := Except.error.inj read
    cases hopeless
  · refine ⟨item, member, Decidable.byContradiction fun unnamed => ?_⟩
    rw [split, Stream.decodeLatest_newest trailing, Snapshot.ofValue_members unnamed] at read
    cases read

end Broke

/-- Snapshots arrive on a request in chunks, with blanks before, between and behind them. After
every chunk the buffer holds at most two longest snapshots, one longest run of blanks and one
longest chunk, and without the chunk as long as the request goes on. It does go on unless an
entity of a snapshot is named like the time. But all blanks before the first snapshot are
held, and all those behind the newest one. -/
theorem buffer_bounded_but_for_blanks (before opened : Connection) (moment : Moment)
    (effects : List Effect) (request : before.connect moment = .ok (opened, effects))
    (stream : Spaced) (longest widest chunkSize : Nat) (within : stream.Within longest widest)
    (chunks : List (Bytes × Moment)) (sizes : ∀ chunk ∈ chunks, chunk.1.length ≤ chunkSize)
    (early : chunks.flatMap Prod.fst <+: stream.bytes) :
    ∃ after, opened.feed opened.generation chunks = .ok after ∧
      after.buffer.length ≤ 2 * longest + widest + chunkSize ∧
      (after.isCurrent opened.generation = true →
        after.buffer.length ≤ 2 * longest + widest) ∧
      ((∀ item ∈ stream.items, Snapshot.timestampKey ∉ item.1.statuses.keys) →
        after.isCurrent opened.generation = true) ∧
      ((∀ byte ∈ chunks.flatMap Prod.fst, Json.isBlank byte = true) →
        after.buffer = chunks.flatMap Prod.fst) ∧
      (after.isCurrent opened.generation = true → ∀ (front : Bytes) (snapshot : Snapshot)
        (gap : Bytes), (∀ byte ∈ gap, Json.isBlank byte = true) →
          chunks.flatMap Prod.fst = front ++ (Utf8.encode snapshot.wire ++ gap) →
            after.buffer = Utf8.encode snapshot.wire ++ gap) := by
  obtain ⟨after, done, outcome⟩ := (holding_connect request).feed chunks
  refine ⟨after, done, ?_⟩
  simp only [List.nil_append] at outcome
  rcases outcome with holding | ⟨first, last, order, broke⟩
  · have size := holding.compacted.length_le within early
    exact ⟨by omega, fun _ => size, fun _ => holding.current, holding.compacted.eq_of_blank,
      fun _ front snapshot gap blank split => (split ▸ holding.compacted).eq_of_newest_blank blank⟩
  · have stale : after.isCurrent opened.generation ≠ true := by simp [broke.1]
    have part : first.flatMap Prod.fst ++ last.1 <+: chunks.flatMap Prod.fst := by
      obtain ⟨later, rfl⟩ := order
      rw [List.flatMap_append, List.flatMap_append, List.flatMap_singleton]
      exact List.prefix_append _ _
    have size := broke.length_le within (part.trans early)
    have chunk := sizes last (order.subset (List.mem_append_right _ List.mem_cons_self))
    refine ⟨by omega, fun current => absurd current stale, fun unnamed => ?_, fun blank => ?_,
      fun current => absurd current stale⟩
    · obtain ⟨item, member, named⟩ := broke.exists_named within (part.trans early)
      exact absurd named (unnamed item member)
    · exact absurd (fun byte member => blank byte (part.subset member)) broke.not_blank

/-- A server that has nothing to report yet keeps the request alive with line breaks. -/
theorem buffer_bounded_but_for_blanks_line_breaks :
    let before := (new 100).run [(.track ["A"], ⟨0, 0⟩)]
    let snapshot : Snapshot := { timestamp := 1, statuses := .ofList [("A", .value "x")] }
    let stream : Spaced := { lead := lineBreaks 48, items := [(snapshot, lineBreaks 0)] }
    let chunks : List (Bytes × Moment) := List.replicate 48 ([0x0a], ⟨0, 0⟩)
    ∃ opened effects after, before.connect ⟨0, 0⟩ = .ok (opened, effects) ∧
      opened.feed opened.generation chunks = .ok after ∧
      stream.Within 23 48 ∧ 2 * 23 + 1 < after.buffer.length := by
  intro before snapshot stream chunks
  have within : stream.Within 23 48 := ⟨by decide, by decide, by decide⟩
  have octets : chunks.flatMap Prod.fst = (lineBreaks 48).1 := rfl
  have early : chunks.flatMap Prod.fst <+: stream.bytes := octets ▸ List.prefix_append _ _
  have sizes : ∀ chunk ∈ chunks, chunk.1.length ≤ 1 := fun chunk member => by
    rw [List.eq_of_mem_replicate member]
    exact le_rfl
  obtain ⟨after, done, _, _, _, kept, _⟩ := buffer_bounded_but_for_blanks before _ ⟨0, 0⟩ _ rfl
    stream 23 48 1 within chunks sizes early
  refine ⟨_, _, after, rfl, done, within, ?_⟩
  rw [kept (octets ▸ (lineBreaks 48).2), octets]
  decide

end Connection

end TreeWatch
