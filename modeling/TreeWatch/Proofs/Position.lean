/-
This file proves that a request is read from front to back. A snapshot that was found on it
is where the octets kept begin, so it can only be found again or give way to a later one
(`Heads.precedes`), whatever else arrives, and the decoder never waits for a first snapshot or
misses a marker any more. What was shown last is the snapshot at the front of the buffer, so one
that is found again is not shown again (`found_in_order`).
-/

import TreeWatch.Proofs.Compaction
import TreeWatch.Proofs.Stale

namespace TreeWatch

/-! ### Places in a stream -/

/-- The second snapshot of a stream stands behind the first one or is the same. -/
def Decoded.Precedes (first second : Decoded) : Prop :=
  first.offset < second.offset ∨ first = second

namespace Decoded.Precedes

variable {first second third : Decoded}

theorem trans (near : first.Precedes second) (far : second.Precedes third) :
    first.Precedes third := by
  rcases near with before | rfl
  · rcases far with after | rfl
    · exact Or.inl (before.trans after)
    · exact Or.inl before
  · exact far

theorem offset_le (order : first.Precedes second) : first.offset ≤ second.offset := by
  rcases order with before | rfl
  · exact before.le
  · exact Nat.le_refl _

theorem eq_of_offset_le (order : first.Precedes second) (back : second.offset ≤ first.offset) :
    first = second :=
  order.resolve_left back.not_gt

theorem moved (order : first.Precedes second) (distance : Nat) :
    (first.moved distance).Precedes (second.moved distance) := by
  rcases order with before | rfl
  · exact Or.inl (Nat.add_lt_add_right before distance)
  · exact Or.inr rfl

end Decoded.Precedes

namespace Stream

variable {text : Bytes} {snapshot other : Snapshot} {decoded : Decoded}

/-- The octets in front of a snapshot that is decoded, in a stream of which some were dropped. -/
theorem exists_dropped (read : decodeLatest text = .ok decoded) (dropped : Bytes) :
    ∃ more, dropped ++ text = more ++ text.drop decoded.offset ∧
      more.length = decoded.offset + dropped.length := by
  refine ⟨dropped ++ text.take decoded.offset, ?_, ?_⟩
  · rw [List.append_assoc, List.take_append_drop]
  · have inside : decoded.offset ≤ text.length := by
      by_contra outside
      have here := (heads_of_decodeLatest read).1
      rw [List.drop_eq_nil_of_le (Nat.le_of_not_le outside)] at here
      cases here
    rw [List.length_append, List.length_take_of_le inside, Nat.add_comm]

namespace Heads

theorem unique (heads : Heads snapshot text) (others : Heads other text) : snapshot = other := by
  obtain ⟨_, value, rest, complete, taken⟩ := heads
  obtain ⟨_, second, after, again, given⟩ := others
  obtain ⟨rfl, _⟩ := Prod.mk.inj (Except.ok.inj (complete.symm.trans again))
  exact Except.ok.inj (taken.symm.trans given)

/-- What is decoded stands at the front or further back. -/
theorem precedes (heads : Heads snapshot text) (read : decodeLatest text = .ok decoded) :
    (⟨snapshot, 0⟩ : Decoded).Precedes decoded := by
  obtain ⟨newest, offset⟩ := decoded
  cases offset with
  | zero => exact Or.inr (congrArg (Decoded.mk · 0) (heads.unique (heads_of_decodeLatest read)))
  | succ offset => exact Or.inl (Nat.succ_pos offset)

theorem ne_missingMarker (heads : Heads snapshot text) :
    decodeLatest text ≠ .error .missingMarker := by
  obtain ⟨newer, found, _⟩ := starts_of_startsHere heads.1
  intro missing
  cases missing ▸ decodes text with
  | unmarked none =>
    rw [found] at none
    exact List.cons_ne_nil _ _ (List.append_eq_nil_iff.mp none).2

end Heads

end Stream

namespace Connection

variable {timeout generation : Nat} {first latest : Decoded} {before after : Connection}
  {moment : Moment} {event : Event} {stream chunk : Bytes}

/-! ### What a request finds -/

/-- How many of the octets delivered on a request are not kept any more. -/
def forgotten (timeout generation : Nat) (events : List (Event × Moment)) : Nat :=
  (delivered generation events).length - ((new timeout).run events).buffer.length

/-- Octets that arrive after some events are accepted and decoded to a snapshot. The place
counts from the first octet of the request. -/
structure Finds (timeout generation : Nat) (events : List (Event × Moment)) (chunk : Bytes)
    (found : Decoded) : Prop where
  current : ((new timeout).run events).isCurrent generation = true
  read : ∃ decoded, Stream.decodeLatest (((new timeout).run events).buffer ++ chunk) =
    .ok decoded ∧ found = decoded.moved (forgotten timeout generation events)

/-! ### The snapshot at the front of the buffer -/

/-- The octets kept begin with a snapshot, which was shown last. In the stream it is some
snapshot or stands behind it. -/
structure Past (first latest : Decoded) (stream : Bytes) (connection : Connection) : Prop where
  order : first.Precedes latest
  kept : ∃ dropped, stream = dropped ++ connection.buffer ∧ dropped.length = latest.offset
  heads : Stream.Heads latest.snapshot connection.buffer
  shown : connection.lastApplied = some latest.snapshot

/-- A snapshot found among the octets kept comes next. -/
theorem Past.precedes {connection : Connection} (past : Past first latest stream connection)
    {decoded : Decoded} (read : Stream.decodeLatest (connection.buffer ++ chunk) = .ok decoded) :
    latest.Precedes (decoded.moved latest.offset) := by
  have next := ((past.heads.append chunk).precedes read).moved latest.offset
  rwa [Decoded.moved, Nat.zero_add] at next

/-- While a request is wanted, the octets kept of it begin with the snapshot shown last. -/
theorem Shift.past (shift : Shift before moment event after) (named : before.Named)
    (current : before.isCurrent generation = true) (still : after.isCurrent generation = true)
    (past : Past first latest stream before) :
    ∃ latest, Past first latest (deliver generation stream event) after := by
  obtain ⟨wanted, rfl⟩ := (before.isCurrent_iff generation).mp current
  cases shift with
  | idle _ futile => exact ⟨latest, (deliver_of_futile named wanted futile stream).symm ▸ past⟩
  | tracked => exact ⟨latest, past.order, past.kept, past.heads, past.shown⟩
  | opened =>
    -- The new request has another number.
    obtain ⟨_, number⟩ := (isCurrent_iff _ _).mp still
    exact absurd number (Nat.ne_of_lt (Nat.lt_succ_self _))
  | heard other chunk about =>
    obtain ⟨_, rfl⟩ := (before.isCurrent_iff other).mp about
    obtain ⟨dropped, split, size⟩ := past.kept
    rw [deliver, if_pos rfl, split]
    exact ⟨latest, past.order, ⟨dropped, List.append_assoc .., size⟩, past.heads.append chunk,
      past.shown⟩
  | took other chunk about decoded read =>
    obtain ⟨_, rfl⟩ := (before.isCurrent_iff other).mp about
    obtain ⟨dropped, split, size⟩ := past.kept
    rw [deliver, if_pos rfl, split, List.append_assoc]
    -- The buffer is cut where the new snapshot stands, which is shown from now on.
    exact ⟨decoded.moved latest.offset, past.order.trans (past.precedes read),
      size ▸ Stream.exists_dropped read dropped, Stream.heads_of_decodeLatest read, rfl⟩
  | failed => cases still
  | ended => cases still
  | disconnected => cases still
  | expired unwanted =>
    rw [unwanted] at wanted
    cases wanted
  | stopped => cases still

theorem Past.run {connection : Connection} (past : Past first latest stream connection)
    (named : connection.Named) (current : connection.isCurrent generation = true)
    (events : List (Event × Moment))
    (still : (connection.run events).isCurrent generation = true) :
    ∃ latest, Past first latest
      (events.foldl (fun stream event => deliver generation stream event.1) stream)
      (connection.run events) := by
  induction events generalizing connection stream latest with
  | nil => exact ⟨latest, past⟩
  | cons event rest inductionHypothesis =>
    have shift := shift_step event.2 event.1 named
    have started : generation ≤ (connection.step event.1 event.2).connection.generation :=
      ((connection.isCurrent_iff generation).mp current).2 ▸ shift.generation_le
    -- Were the request over after this event, it would be over in the end.
    have next := current_of_run (shift.named named) started still
    obtain ⟨later, held⟩ := shift.past named current next past
    exact inductionHypothesis held (shift.named named) next still

/-- The octets that were not forgotten are kept. -/
theorem forgotten_eq {events : List (Event × Moment)} {dropped : Bytes}
    (split : delivered generation events = dropped ++ ((new timeout).run events).buffer) :
    forgotten timeout generation events = dropped.length := by
  rw [forgotten, split, List.length_append, Nat.add_sub_cancel_right]

/-- A snapshot that is found is shown, and the octets kept begin with it. -/
theorem Finds.past {events : List (Event × Moment)}
    (found : Finds timeout generation events chunk first) (moment : Moment) :
    Past first first (delivered generation events ++ chunk)
      (((new timeout).run events).step (.progress generation chunk) moment).connection := by
  obtain ⟨wanted, rfl⟩ := (isCurrent_iff _ generation).mp found.current
  obtain ⟨decoded, read, rfl⟩ := found.read
  obtain ⟨dropped, split, _⟩ := run_kept timeout events wanted
  obtain ⟨history, standing, effects, taken, _⟩ := takeIn_ok
    { ((new timeout).run events).receive chunk moment with
      buffer := (((new timeout).run events).buffer ++ chunk).drop decoded.offset }
    moment (run_named (new_named timeout) events wanted) decoded.snapshot
  rw [step, progress_decoded moment found.current read, taken, forgotten_eq split, split,
    List.append_assoc]
  exact ⟨Or.inr rfl, Stream.exists_dropped read dropped, Stream.heads_of_decodeLatest read, rfl⟩

/-- As long as the request on which a snapshot was found is wanted, its octets begin with that one
or one behind it. -/
theorem Finds.exists_past {earlier between : List (Event × Moment)}
    (found : Finds timeout generation earlier chunk first)
    (current : ((new timeout).run (earlier ++ (.progress generation chunk, moment) ::
      between)).isCurrent generation = true) :
    ∃ latest, Past first latest
      (delivered generation (earlier ++ (.progress generation chunk, moment) :: between))
      ((new timeout).run (earlier ++ (.progress generation chunk, moment) :: between)) := by
  have named := run_named (new_named timeout) earlier
  have shift := shift_step moment (.progress generation chunk) named
  have started : generation ≤ ((new timeout).run earlier).generation :=
    ((isCurrent_iff _ generation).mp found.current).2.le
  rw [run_append, run_cons] at current ⊢
  have accepted := current_of_run (shift.named named) (started.trans shift.generation_le) current
  obtain ⟨latest, past⟩ := (found.past moment).run (shift.named named) accepted between current
  refine ⟨latest, ?_⟩
  rw [delivered, List.foldl_append, List.foldl_cons, deliver, if_pos rfl]
  exact past

/-- What is found next stands no nearer to the front than the snapshot at the front of the octets
kept. -/
theorem Past.found {events : List (Event × Moment)} {second : Decoded}
    (past : Past first latest (delivered generation events) ((new timeout).run events))
    (found : Finds timeout generation events chunk second) : latest.Precedes second := by
  obtain ⟨decoded, read, rfl⟩ := found.read
  obtain ⟨dropped, split, size⟩ := past.kept
  rw [forgotten_eq split, size]
  exact past.precedes read

/-! ### Finding a snapshot again -/

/-- A snapshot that was shown last is not shown again, nor recorded. -/
theorem step_again {connection : Connection} (moment : Moment)
    (current : connection.isCurrent generation = true) {decoded : Decoded}
    (read : Stream.decodeLatest (connection.buffer ++ chunk) = .ok decoded)
    (again : connection.lastApplied = some decoded.snapshot) :
    let outcome := connection.step (.progress generation chunk) moment
    outcome.connection.history = connection.history ∧
      outcome.connection.lastApplied = connection.lastApplied ∧
      ∀ paint ∈ outcome.paints, paint.IsBanner := by
  let kept := { connection.receive chunk moment with
    buffer := (connection.buffer ++ chunk).drop decoded.offset }
  have confirmed : kept.takeIn decoded.snapshot moment = .ok (kept.confirm moment) := if_pos again
  rw [step, progress_decoded moment current read, confirmed]
  refine ⟨?_, ?_, isBanner_of_mem_paints (bannersOnly_record _ (bannersOnly_confirm moment kept))⟩
  · show (kept.confirm moment).1.history = connection.history
    rw [confirm_eq]
    rfl
  · show (kept.confirm moment).1.lastApplied = connection.lastApplied
    rw [confirm_eq]
    rfl

/-- On one request snapshots are found in the order they stand in, counted from the first octet
delivered on it, and at one place always the same one. Once one was found, octets that arrive
never leave the decoder waiting for a first snapshot nor without a marker. A snapshot that is
found again is neither shown nor recorded again. -/
theorem found_in_order (timeout : Nat) (earlier between : List (Event × Moment))
    (generation : Nat) (chunk : Bytes) (moment : Moment) (first : Decoded)
    (found : Finds timeout generation earlier chunk first)
    (current : ((new timeout).run (earlier ++ (.progress generation chunk, moment) ::
      between)).isCurrent generation = true) (next : Bytes) (later : Moment) :
    let events := earlier ++ (.progress generation chunk, moment) :: between
    let connection := (new timeout).run events
    let outcome := connection.step (.progress generation next) later
    Stream.decodeLatest (connection.buffer ++ next) ≠ .error .incomplete ∧
      Stream.decodeLatest (connection.buffer ++ next) ≠ .error .missingMarker ∧
      ∀ second, Finds timeout generation events next second →
        first.offset ≤ second.offset ∧
        (second.offset = first.offset → second.snapshot = first.snapshot ∧
          outcome.connection.history = connection.history ∧
          outcome.connection.lastApplied = connection.lastApplied ∧
          ∀ paint ∈ outcome.paints, paint.IsBanner) := by
  intro events connection outcome
  obtain ⟨latest, past⟩ := found.exists_past current
  have heads : Stream.Heads latest.snapshot (connection.buffer ++ next) := past.heads.append next
  refine ⟨Stream.decodeLatest_ne_incomplete heads.anchored, heads.ne_missingMarker, ?_⟩
  intro second again
  have order := past.order.trans (past.found again)
  refine ⟨order.offset_le, fun same => ?_⟩
  -- The snapshot at the front of the buffer, shown last, stands between the two.
  obtain rfl : first = second := order.eq_of_offset_le same.le
  obtain rfl : first = latest := past.order.eq_of_offset_le (past.found again).offset_le
  obtain ⟨decoded, read, equal⟩ := again.read
  have shown : connection.lastApplied = some decoded.snapshot := by
    rw [past.shown, equal]
    rfl
  exact ⟨rfl, step_again later again.current read shown⟩

/-- A piece of a second snapshot brings the first one up again, after an octet that belongs to
none. -/
theorem found_in_order_second_cut :
    let earlier : List (Event × Moment) := [(.track ["pump"], ⟨0, 0⟩), (.connect, ⟨0, 0⟩)]
    let chunk := Utf8.encode "x\x7b\"timestamp\":1\x7d\x7b\"ti"
    let events := earlier ++ [(.progress 1 chunk, ⟨5, 0⟩)]
    let next := Utf8.encode "mestamp\":2"
    let first : Decoded := ⟨{ timestamp := 1 }, 1⟩
    Finds 100 1 earlier chunk first ∧ Finds 100 1 events next first ∧
      ∀ paint ∈ (((new 100).run events).step (.progress 1 next) ⟨9, 0⟩).paints,
        paint.IsBanner := by
  intro earlier chunk events next first
  have found : Finds 100 1 earlier chunk first := ⟨rfl, ⟨_, 1⟩, rfl, rfl⟩
  have again : Finds 100 1 events next first := ⟨rfl, ⟨_, 0⟩, rfl, rfl⟩
  obtain ⟨_, _, ordered⟩ :=
    found_in_order 100 earlier [] 1 chunk ⟨5, 0⟩ first found again.current next ⟨9, 0⟩
  exact ⟨found, again, ((ordered first again).2 rfl).2.2.2⟩

end Connection

end TreeWatch
