/-
This file says what each operation of a connection does to its fields, so that no
later proof opens an operation again. The operations fall into three kinds. Some end
the newest request: they leave it unwanted and the watchdog off. One starts a request.
The others take in what arrived; they touch what is shown and recorded, but neither
the request nor the retry.
-/

import TreeWatch.Connection

namespace TreeWatch

/-! ### The history -/

namespace History

/-- A history whose entities are named takes any snapshot, recorded or not. -/
theorem apply_ok {history : History} (named : history.isInitialized = true)
    (snapshot : Snapshot) :
    ∃ applied, history.apply snapshot = .ok applied ∧ applied.history.isInitialized = true := by
  cases history with
  | uninitialized => cases named
  | tracking rows last? =>
    rw [apply]
    split <;> exact ⟨_, rfl, rfl⟩

end History

namespace Connection

variable (connection : Connection) (moment : Moment)

theorem isCurrent_iff (generation : Nat) :
    connection.isCurrent generation = true ↔
      connection.inFlight = true ∧ generation = connection.generation := by
  simp [isCurrent]

/-! ### Naming the entities -/

theorem track_fresh {connection : Connection} (fresh : connection.history.isInitialized = false)
    (entities : List EntityId) :
    ∃ (history : History) (notices : List Notice), connection.track entities =
        .ok ({ connection with history }, notices.map .record) ∧
      history.isInitialized = true := by
  cases held : connection.history with
  | uninitialized =>
    simp only [track, held, History.track]
    exact ⟨_, _, rfl, rfl⟩
  | tracking rows last? =>
    rw [held] at fresh
    cases fresh

theorem track_named {connection : Connection} (named : connection.history.isInitialized = true)
    (entities : List EntityId) : connection.track entities = .error .alreadyInitialized := by
  cases held : connection.history with
  | uninitialized =>
    rw [held] at named
    cases named
  | tracking rows last? =>
    simp only [track, held, History.track]
    rfl

/-! ### Ending a request -/

theorem disconnect_of_not_connected (lost : connection.standing.connected = false) :
    (connection.disconnect moment).1 = connection := by
  simp [disconnect, lost]

theorem disconnect_of_connected (live : connection.standing.connected = true) :
    (connection.disconnect moment).1 = { connection with
      standing := connection.standing.lost moment.wall
      inFlight := false
      retryAt? := some (moment.now + connection.timeout)
      watchdog := connection.watchdog.cancel } := by
  simp [disconnect, live]

/-- Everything a failure leaves behind, apart from the banner and the planned attempt. -/
theorem fail_eq (failure : Failure) :
    ∃ standing, (connection.fail failure moment).1 = { connection with
        standing
        inFlight := false
        watchdog := connection.watchdog.cancel
        retryAt? := if connection.standing.connected then some (moment.now + connection.timeout)
          else connection.retryAt? <|> some (moment.now + connection.timeout) } ∧
      standing.connected = false := by
  unfold fail
  by_cases live : connection.standing.connected = true
  · refine ⟨connection.standing.lost moment.wall, ?_, rfl⟩
    simp [live, disconnect, timeout, Watchdog.cancel]
  · by_cases first : connection.standing.disconnectedSince.isNone = true
    · refine ⟨connection.standing.lost moment.wall, ?_, rfl⟩
      simp [live, first, timeout, Watchdog.cancel]
    · refine ⟨connection.standing, ?_, by simpa using live⟩
      simp [live, first, timeout, Watchdog.cancel]

theorem isCurrent_fail (failure : Failure) (generation : Nat) :
    (connection.fail failure moment).1.isCurrent generation = false := by
  obtain ⟨standing, equal, _⟩ := connection.fail_eq moment failure
  rw [equal]
  rfl

/-! ### Taking in a snapshot -/

theorem confirm_eq :
    (connection.confirm moment).1 = { connection with
      standing := if connection.standing.connected then connection.standing
        else .live moment.wall } := by
  unfold confirm
  split <;> rfl

/-- Taking in a snapshot makes it the one shown and the link live; the request, the
retry, the watchdog and the octets kept are left alone. -/
theorem takeIn_ok (named : connection.history.isInitialized = true) (snapshot : Snapshot) :
    ∃ history standing effects,
      connection.takeIn snapshot moment = .ok
        ({ connection with history, standing, lastApplied := some snapshot }, effects) ∧
      history.isInitialized = true ∧ standing.connected = true := by
  unfold takeIn
  by_cases shown : connection.lastApplied = some snapshot
  · rw [if_pos shown]
    refine ⟨connection.history, (connection.confirm moment).1.standing,
      (connection.confirm moment).2, ?_, named, ?_⟩
    · refine congrArg Except.ok (Prod.ext ?_ rfl)
      simp only [confirm_eq, ← shown]
    · by_cases live : connection.standing.connected = true <;>
        simp [confirm_eq, live, Standing.live]
  · rw [if_neg shown]
    obtain ⟨applied, done, stays⟩ := History.apply_ok named snapshot
    refine ⟨applied.history, .live moment.wall, ?effects, ?equal, stays, rfl⟩
    case equal =>
      rw [Connection.apply, done]
      rfl

/-! ### The watchdog going off -/

theorem watchdogDue_early (early : connection.watchdog.isDue moment.now = false) :
    connection.watchdogDue moment = (connection, []) := by
  simp [watchdogDue, Watchdog.fire, early]

theorem watchdogDue_unwanted (due : connection.watchdog.isDue moment.now = true)
    (unwanted : connection.inFlight = false) :
    connection.watchdogDue moment =
      ({ connection with watchdog := connection.watchdog.cancel }, []) := by
  simp [watchdogDue, Watchdog.fire, due, unwanted]

theorem watchdogDue_wanted (due : connection.watchdog.isDue moment.now = true)
    (wanted : connection.inFlight = true) :
    connection.watchdogDue moment =
      fail { connection with watchdog := connection.watchdog.cancel }
        (.stalled connection.timeout) moment := by
  simp [watchdogDue, Watchdog.fire, due, wanted, timeout, Watchdog.cancel]

/-! ### Opening a request -/

/-- An attempt that is not refused leaves a request with nothing on it yet. -/
theorem opened_of_connect {connection opened : Connection} {moment : Moment}
    {effects : List Effect} (request : connection.connect moment = .ok (opened, effects)) :
    connection.history.isInitialized = true ∧ opened = { connection with
      generation := connection.generation + 1
      inFlight := true
      received := false
      buffer := []
      retryAt? := none
      watchdog := connection.watchdog.arm moment.now } := by
  unfold connect at request
  split at request
  · next ready => exact ⟨ready, (Prod.mk.inj (Except.ok.inj request)).1.symm⟩
  · cases request

/-! ### Octets arriving

What an accepted report leads to is decided by decoding the octets kept together with
the new ones. -/

section Progress

variable {connection} {generation : Nat} {chunk : Bytes}

theorem progress_stale (stale : connection.isCurrent generation = false) :
    connection.progress generation chunk moment =
      .ok (connection, [.record (staleNotice generation)]) := by
  rw [progress, if_neg (by simp [stale])]

theorem progress_decoded (current : connection.isCurrent generation = true) {decoded : Decoded}
    (read : Stream.decodeLatest (connection.buffer ++ chunk) = .ok decoded) :
    connection.progress generation chunk moment =
      (takeIn { connection.receive chunk moment with
          buffer := (connection.buffer ++ chunk).drop decoded.offset }
        decoded.snapshot moment).map fun result =>
          (result.1, .record (progressNotice generation chunk (connection.buffer ++ chunk)) ::
            result.2) := by
  have readReceived : Stream.decodeLatest (connection.receive chunk moment).buffer =
      .ok decoded := read
  rw [progress, if_pos current]
  simp only [readReceived]
  exact bind_pure_comp (fun result : Connection × List Effect => (result.1,
    Effect.record (progressNotice generation chunk (connection.buffer ++ chunk)) :: result.2)) _

theorem progress_incomplete (current : connection.isCurrent generation = true)
    (read : Stream.decodeLatest (connection.buffer ++ chunk) = .error .incomplete) :
    connection.progress generation chunk moment =
      .ok (connection.receive chunk moment,
        [.record (progressNotice generation chunk (connection.buffer ++ chunk))]) := by
  have readReceived : Stream.decodeLatest (connection.receive chunk moment).buffer =
      .error .incomplete := read
  rw [progress, if_pos current]
  simp only [readReceived]
  rfl

theorem progress_failed (current : connection.isCurrent generation = true) {error : DecodeError}
    (hopeless : error.isIncomplete = false)
    (read : Stream.decodeLatest (connection.buffer ++ chunk) = .error error) :
    connection.progress generation chunk moment =
      .ok (((connection.receive chunk moment).fail (.decode error) moment).1,
        .record (progressNotice generation chunk (connection.buffer ++ chunk)) ::
          ((connection.receive chunk moment).fail (.decode error) moment).2) := by
  have readReceived : Stream.decodeLatest (connection.receive chunk moment).buffer =
      .error error := read
  rw [progress, if_pos current]
  simp only [readReceived, hopeless]
  rfl

end Progress

end Connection

end TreeWatch
