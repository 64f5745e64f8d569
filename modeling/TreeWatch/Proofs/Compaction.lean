/-
This file proves that dropping octets from the buffer is invisible. A connection keeps
of a request only what stands from the newest complete snapshot on, yet every report of
octets leads where decoding everything that was delivered on the request would lead
(`progress_reads_stream`): to the same snapshot, to waiting, or to the same error.

The reason is an invariant of every run: what is kept is either everything, or begins
with an anchor, and octets before an anchor never matter again (`Kept`).
-/

import Mathlib.Data.List.Induction
import TreeWatch.Proofs.Markers
import TreeWatch.Proofs.Run

namespace TreeWatch

namespace Stream

/-! ### What may be dropped -/

/-- The buffer is what is left of a stream from which only octets before an anchor were
dropped, if any. -/
def Kept (stream buffer : Bytes) : Prop :=
  ∃ dropped, stream = dropped ++ buffer ∧ (dropped = [] ∨ Anchored buffer)

namespace Kept

variable {stream buffer : Bytes}

theorem refl (stream : Bytes) : Kept stream stream := ⟨[], rfl, Or.inl rfl⟩

theorem append (kept : Kept stream buffer) (chunk : Bytes) :
    Kept (stream ++ chunk) (buffer ++ chunk) := by
  obtain ⟨dropped, rfl, reason⟩ := kept
  exact ⟨dropped, List.append_assoc .., reason.imp_right fun anchored => anchored.append chunk⟩

/-- The buffer may be cut where its newest complete snapshot starts. -/
theorem compact (kept : Kept stream buffer) {decoded : Decoded}
    (read : decodeLatest buffer = .ok decoded) : Kept stream (buffer.drop decoded.offset) := by
  obtain ⟨dropped, rfl, _⟩ := kept
  refine ⟨dropped ++ buffer.take decoded.offset, ?_, Or.inr (anchored_of_decodeLatest read)⟩
  rw [List.append_assoc, List.take_append_drop]

/-- The stream as a whole decodes like the buffer, only that offsets count from further
ahead. -/
theorem decodeLatest_eq (kept : Kept stream buffer) :
    ∃ distance, stream.drop distance = buffer ∧
      decodeLatest stream = (decodeLatest buffer).map (.moved distance) := by
  obtain ⟨dropped, rfl, reason⟩ := kept
  refine ⟨dropped.length, List.drop_left, ?_⟩
  rcases reason with rfl | anchored
  · rw [List.nil_append]
    cases decodeLatest buffer <;> rfl
  · exact decodeLatest_append dropped anchored

theorem decoded (kept : Kept stream buffer) {decoded : Decoded}
    (read : decodeLatest stream = .ok decoded) :
    ∃ offset, decodeLatest buffer = .ok ⟨decoded.snapshot, offset⟩ ∧
      buffer.drop offset = stream.drop decoded.offset := by
  obtain ⟨distance, rest, equal⟩ := kept.decodeLatest_eq
  cases near : decodeLatest buffer with
  | error error =>
    rw [equal, near] at read
    cases read
  | ok found =>
    rw [equal, near] at read
    obtain rfl := Except.ok.inj read
    refine ⟨found.offset, rfl, ?_⟩
    rw [← rest, List.drop_drop, Decoded.moved, Nat.add_comm]

theorem failed (kept : Kept stream buffer) {error : DecodeError}
    (read : decodeLatest stream = .error error) : decodeLatest buffer = .error error := by
  obtain ⟨distance, rest, equal⟩ := kept.decodeLatest_eq
  cases near : decodeLatest buffer with
  | error found =>
    rw [equal, near] at read
    rw [Except.error.inj read]
  | ok found =>
    rw [equal, near] at read
    cases read

/-- While the decoder waits for its first snapshot nothing has been dropped. -/
theorem eq_of_incomplete (kept : Kept stream buffer)
    (read : decodeLatest stream = .error .incomplete) : buffer = stream := by
  have near := kept.failed read
  obtain ⟨dropped, rfl, rfl | anchored⟩ := kept
  · rfl
  · exact absurd near (decodeLatest_ne_incomplete anchored)

end Kept

end Stream

namespace Connection

/-! ### What was delivered -/

/-- The octets delivered on a request after one more event. A new request starts afresh. -/
def deliver (generation : Nat) (stream : Bytes) : Event → Bytes
  | .connect => []
  | .progress other chunk => if other = generation then stream ++ chunk else stream
  | _ => stream

/-- All octets delivered under a request's number since a request was last opened. -/
def delivered (generation : Nat) (events : List (Event × Moment)) : Bytes :=
  events.foldl (fun stream event => deliver generation stream event.1) []

theorem delivered_concat (generation : Nat) (events : List (Event × Moment))
    (event : Event × Moment) : delivered generation (events ++ [event]) =
      deliver generation (delivered generation events) event.1 := by
  rw [delivered, List.foldl_append]
  rfl

/-- Nothing is delivered on a wanted request by an event that nothing comes of. -/
theorem deliver_of_futile {connection : Connection} {moment : Moment} {event : Event}
    (named : connection.Named) (wanted : connection.inFlight = true)
    (futile : connection.Futile moment event) (stream : Bytes) :
    deliver connection.generation stream event = stream := by
  cases event with
  | connect =>
    rw [Futile, named wanted] at futile
    cases futile
  | progress other chunk =>
    have stale : other ≠ connection.generation := by
      simpa [Futile, isCurrent, wanted] using futile
    rw [deliver, if_neg stale]
  | _ => rfl

/-- No event spoils what is kept of the stream of a wanted request. -/
theorem Shift.kept {before after : Connection} {moment : Moment} {event : Event}
    (shift : Shift before moment event after) (named : before.Named) (streams : Nat → Bytes)
    (kept : before.inFlight = true → Stream.Kept (streams before.generation) before.buffer)
    (wanted : after.inFlight = true) :
    Stream.Kept (deliver after.generation (streams after.generation) event) after.buffer := by
  cases shift with
  | idle _ futile => exact (deliver_of_futile named wanted futile _).symm ▸ kept wanted
  | tracked => exact kept wanted
  | opened => exact .refl []
  | heard generation chunk current =>
    obtain ⟨_, rfl⟩ := (before.isCurrent_iff generation).mp current
    simp only [deliver, receive, if_true]
    exact (kept wanted).append chunk
  | took generation chunk current decoded read =>
    obtain ⟨_, rfl⟩ := (before.isCurrent_iff generation).mp current
    simp only [deliver, receive, if_true]
    exact ((kept wanted).append chunk).compact read
  | failed => cases wanted
  | ended => cases wanted
  | disconnected => cases wanted
  | expired unwanted => rw [unwanted] at wanted; cases wanted
  | stopped => cases wanted

theorem run_kept (timeout : Nat) (events : List (Event × Moment))
    (wanted : ((new timeout).run events).inFlight = true) :
    Stream.Kept (delivered ((new timeout).run events).generation events)
      ((new timeout).run events).buffer := by
  induction events using List.reverseRecOn with
  | nil => cases wanted
  | append_singleton events event inductionHypothesis =>
    have named := run_named (new_named timeout) events
    rw [run_append] at wanted ⊢
    rw [delivered_concat]
    exact (shift_step event.2 event.1 named).kept named
      (fun generation => delivered generation events) inductionHypothesis wanted

/-- A snapshot that stands in the whole stream is taken in, and the octets from its start on
are kept. -/
theorem progress_taken {connection : Connection} {generation : Nat} {chunk stream : Bytes}
    (moment : Moment) (current : connection.isCurrent generation = true)
    (named : connection.history.isInitialized = true)
    (kept : Stream.Kept stream (connection.buffer ++ chunk)) {decoded : Decoded}
    (read : Stream.decodeLatest stream = .ok decoded) :
    ∃ history standing effects, connection.progress generation chunk moment = .ok
        ({ connection.receive chunk moment with
            buffer := stream.drop decoded.offset, history, standing
            lastApplied := some decoded.snapshot }, effects) ∧
      history.isInitialized = true ∧ standing.connected = true := by
  obtain ⟨offset, near, rest⟩ := kept.decoded read
  obtain ⟨history, standing, effects, taken, stays, live⟩ := takeIn_ok
    { connection.receive chunk moment with buffer := stream.drop decoded.offset } moment named
    decoded.snapshot
  have done := progress_decoded moment current near
  rw [rest, taken] at done
  exact ⟨history, standing, _, done, stays, live⟩

/-- A report of octets leads where decoding everything delivered on the request leads.
A snapshot is taken in, and the octets from its start on are kept; while there is none
everything is kept and nothing is shown; any other error breaks the request. -/
theorem progress_reads_stream (timeout : Nat) (events : List (Event × Moment))
    (generation : Nat) (chunk : Bytes) (moment : Moment)
    (current : ((new timeout).run events).isCurrent generation = true) :
    let connection := (new timeout).run events
    let stream := delivered generation events ++ chunk
    ∃ after notice effects, connection.progress generation chunk moment =
        .ok (after, .record notice :: effects) ∧
      match Stream.decodeLatest stream with
      | .ok decoded =>
        takeIn { connection.receive chunk moment with buffer := stream.drop decoded.offset }
            decoded.snapshot moment = .ok (after, effects) ∧
          after.buffer = stream.drop decoded.offset ∧
          after.lastApplied = some decoded.snapshot ∧ after.isCurrent generation = true
      | .error .incomplete =>
        after = { connection.receive chunk moment with buffer := stream } ∧ effects = []
      | .error error =>
        (∃ buffer, (after, effects) =
          fail { connection.receive chunk moment with buffer } (.decode error) moment) ∧
          after.isCurrent generation = false := by
  intro connection stream
  obtain ⟨wanted, rfl⟩ := (connection.isCurrent_iff generation).mp current
  have kept : Stream.Kept stream (connection.buffer ++ chunk) :=
    (run_kept timeout events wanted).append chunk
  have named : connection.history.isInitialized = true :=
    run_named (new_named timeout) events wanted
  let notice := progressNotice connection.generation chunk (connection.buffer ++ chunk)
  cases read : Stream.decodeLatest stream with
  | ok decoded =>
    obtain ⟨offset, near, rest⟩ := kept.decoded read
    obtain ⟨history, standing, effects, taken, _, _⟩ := takeIn_ok
      { connection.receive chunk moment with buffer := stream.drop decoded.offset } moment named
      decoded.snapshot
    refine ⟨_, notice, effects, ?_, taken, rfl, rfl, current⟩
    rw [progress_decoded moment current near, rest, taken]
    rfl
  | error error =>
    have near := kept.failed read
    by_cases more : error = .incomplete
    · subst more
      refine ⟨_, notice, [], progress_incomplete moment current near, ?_, rfl⟩
      rw [← kept.eq_of_incomplete read]
      rfl
    · have hopeless : error.isIncomplete = false := by
        cases error <;> first | rfl | exact absurd rfl more
      obtain ⟨standing, equal, _⟩ :=
        (connection.receive chunk moment).fail_eq moment (.decode error)
      refine ⟨_, notice, _, progress_failed moment current hopeless near, ?_⟩
      cases error with
      | incomplete => exact absurd rfl more
      | _ => exact ⟨⟨_, rfl⟩, by rw [equal]; rfl⟩

/-- The second chunk completes a snapshot whose beginning came with an older one, after
an octet that belongs to none. -/
theorem progress_reads_stream_second_chunk :
    let events : List (Event × Moment) := [(.track ["pump"], ⟨0, 0⟩), (.connect, ⟨0, 0⟩),
      (.progress 1 (Utf8.encode "x\x7b\"timestamp\":1\x7d\x7b\"ti"), ⟨5, 0⟩)]
    let connection := (new 100).run events
    connection.isCurrent 1 = true ∧ ∃ after notice effects,
      connection.progress 1 (Utf8.encode "mestamp\":2\x7d") ⟨9, 0⟩ =
        .ok (after, .record notice :: effects) ∧
      after.buffer = Utf8.encode "\x7b\"timestamp\":2\x7d" ∧
      after.lastApplied = some { timestamp := 2 } := by
  refine ⟨rfl, ?_⟩
  obtain ⟨after, notice, effects, done, _, kept, shown, _⟩ := progress_reads_stream 100
    [(.track ["pump"], ⟨0, 0⟩), (.connect, ⟨0, 0⟩),
      (.progress 1 (Utf8.encode "x\x7b\"timestamp\":1\x7d\x7b\"ti"), ⟨5, 0⟩)]
    1 (Utf8.encode "mestamp\":2\x7d") ⟨9, 0⟩ rfl
  exact ⟨after, notice, effects, done, kept, shown⟩

end Connection

end TreeWatch
