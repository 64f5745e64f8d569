/-
This file says what one event can do to a connection, and what a run of events is.
`Shift` lists everything an event can lead to, with the circumstances under which it
does; an invariant of all runs is a case analysis over it. A request is only ever
wanted once the entities are named (`run_named`), so no event of a run is refused for
coming too early except the first requests themselves.
-/

import TreeWatch.Proofs.Operations

namespace TreeWatch.Connection

/-! ### One event -/

/-- A request is wanted only when the entities are named. -/
def Named (connection : Connection) : Prop :=
  connection.inFlight = true → connection.history.isInitialized = true

/-- The request that an event reports about. -/
def Event.generation? : Event → Option Nat
  | .progress generation _ | .requestError generation _ | .complete generation => some generation
  | _ => none

/-- Nothing comes of an event: it is stale, comes in the wrong order or too early, or has
no object. -/
def Futile (connection : Connection) (moment : Moment) : Event → Prop
  | .track _ => connection.history.isInitialized = true
  | .connect => connection.history.isInitialized = false
  | .progress generation _ | .requestError generation _ | .complete generation =>
    connection.isCurrent generation = false
  | .watchdogDue => connection.watchdog.isDue moment.now = false
  | .disconnect => connection.standing.connected = false
  | .shutdown => False

/-- What an event at some moment can turn a connection into. -/
inductive Shift (before : Connection) (moment : Moment) : Event → Connection → Prop where
  | idle (event : Event) (futile : before.Futile moment event) : Shift before moment event before
  | tracked (entities : List EntityId) (history : History)
      (fresh : before.history.isInitialized = false)
      (named : history.isInitialized = true) :
      Shift before moment (.track entities) { before with history }
  | opened (named : before.history.isInitialized = true) :
      Shift before moment .connect { before with
        generation := before.generation + 1
        inFlight := true
        received := false
        buffer := []
        retryAt? := none
        watchdog := before.watchdog.arm moment.now }
  /-- Octets arrived; more are needed. -/
  | heard (generation : Nat) (chunk : Bytes) (current : before.isCurrent generation = true)
      (read : Stream.decodeLatest (before.buffer ++ chunk) = .error .incomplete) :
      Shift before moment (.progress generation chunk) (before.receive chunk moment)
  /-- Octets arrived and a snapshot stands among the octets kept. -/
  | took (generation : Nat) (chunk : Bytes) (current : before.isCurrent generation = true)
      (decoded : Decoded) (read : Stream.decodeLatest (before.buffer ++ chunk) = .ok decoded)
      (history : History) (named : history.isInitialized = true) (standing : Standing)
      (live : standing.connected = true) :
      Shift before moment (.progress generation chunk) { before.receive chunk moment with
        buffer := (before.buffer ++ chunk).drop decoded.offset
        lastApplied := some decoded.snapshot
        history, standing }
  /-- The request broke, in whatever way. -/
  | failed (event : Event) (wanted : before.inFlight = true) (received : Bool)
      (buffer : Bytes) (standing : Standing) (lost : standing.connected = false) :
      Shift before moment event { before with
        received, buffer, standing
        inFlight := false
        watchdog := before.watchdog.cancel
        retryAt? := if before.standing.connected then some (moment.now + before.timeout)
          else before.retryAt? <|> some (moment.now + before.timeout) }
  | ended (generation : Nat) (current : before.isCurrent generation = true) :
      Shift before moment (.complete generation) { before with
        inFlight := false, retryAt? := some moment.now }
  | disconnected (live : before.standing.connected = true) :
      Shift before moment .disconnect { before with
        standing := before.standing.lost moment.wall
        inFlight := false
        retryAt? := some (moment.now + before.timeout)
        watchdog := before.watchdog.cancel }
  /-- The watchdog went off over nothing. -/
  | expired (unwanted : before.inFlight = false) :
      Shift before moment .watchdogDue { before with watchdog := before.watchdog.cancel }
  | stopped : Shift before moment .shutdown before.shutdown

variable {before : Connection} (moment : Moment)

theorem shift_fail (event : Event) (failure : Failure) (wanted : before.inFlight = true) :
    Shift before moment event (before.fail failure moment).1 := by
  obtain ⟨standing, equal, lost⟩ := before.fail_eq moment failure
  rw [equal]
  exact .failed event wanted before.received before.buffer standing lost

theorem shift_progress {generation : Nat} {chunk : Bytes}
    (named : before.history.isInitialized = true)
    (current : before.isCurrent generation = true) :
    ∃ after effects, before.progress generation chunk moment = .ok (after, effects) ∧
      Shift before moment (.progress generation chunk) after := by
  cases read : Stream.decodeLatest (before.buffer ++ chunk) with
  | ok decoded =>
    obtain ⟨history, standing, effects, taken, stays, live⟩ :=
      takeIn_ok { before.receive chunk moment with
        buffer := (before.buffer ++ chunk).drop decoded.offset } moment named decoded.snapshot
    rw [progress_decoded moment current read, taken]
    exact ⟨_, _, rfl, .took generation chunk current decoded read history stays standing live⟩
  | error error =>
    by_cases more : error.isIncomplete = true
    · have incomplete : error = .incomplete := by
        cases error <;> first | rfl | cases more
      rw [incomplete] at read
      rw [progress_incomplete moment current read]
      exact ⟨_, _, rfl, .heard generation chunk current read⟩
    · rw [progress_failed moment current (by simpa using more) read]
      obtain ⟨standing, equal, lost⟩ :=
        (before.receive chunk moment).fail_eq moment (.decode error)
      refine ⟨_, _, rfl, ?_⟩
      rw [equal]
      exact .failed _ ((before.isCurrent_iff generation).mp current).1 true _ standing lost

/-- Every event leads to one of the listed changes. -/
theorem shift_step (event : Event) (named : before.Named) :
    Shift before moment event (before.step event moment).connection := by
  cases event with
  | track entities =>
    show Shift before moment _ (Outcome.ofResult before (before.track entities)).connection
    cases fresh : before.history.isInitialized with
    | true =>
      rw [track_named fresh]
      exact .idle _ fresh
    | false =>
      obtain ⟨history, notices, done, named⟩ := track_fresh fresh entities
      rw [done]
      exact .tracked entities history fresh named
  | connect =>
    show Shift before moment _ (Outcome.ofResult before (before.connect moment)).connection
    by_cases ready : before.history.isInitialized = true
    · rw [connect, if_pos ready]
      exact .opened ready
    · rw [connect, if_neg ready]
      exact .idle _ (by simpa [Futile] using ready)
  | progress generation chunk =>
    show Shift before moment _
      (Outcome.ofResult before (before.progress generation chunk moment)).connection
    cases current : before.isCurrent generation with
    | false =>
      rw [progress_stale moment current]
      exact .idle _ current
    | true =>
      have wanted := ((before.isCurrent_iff generation).mp current).1
      obtain ⟨after, effects, done, shift⟩ := shift_progress moment (named wanted) current
      rw [done]
      exact shift
  | requestError generation error =>
    show Shift before moment _ (before.requestError generation error moment).1
    unfold requestError
    split
    · next current =>
      exact shift_fail moment _ _ ((before.isCurrent_iff generation).mp current).1
    · next stale => exact .idle _ (by simpa [Futile] using stale)
  | complete generation =>
    show Shift before moment _ (before.complete generation moment).1
    unfold complete
    split
    · next current =>
      split
      · exact .ended generation current
      · exact shift_fail moment _ _ ((before.isCurrent_iff generation).mp current).1
    · next stale => exact .idle _ (by simpa [Futile] using stale)
  | watchdogDue =>
    show Shift before moment _ (before.watchdogDue moment).1
    cases due : before.watchdog.isDue moment.now with
    | false =>
      rw [before.watchdogDue_early moment due]
      exact .idle _ due
    | true =>
      cases wanted : before.inFlight with
      | false =>
        rw [before.watchdogDue_unwanted moment due wanted]
        exact .expired wanted
      | true =>
        rw [before.watchdogDue_wanted moment due wanted]
        obtain ⟨standing, equal, lost⟩ := fail_eq
          { before with watchdog := before.watchdog.cancel } moment (.stalled before.timeout)
        rw [equal]
        exact .failed _ wanted _ _ standing lost
  | disconnect =>
    show Shift before moment _ (before.disconnect moment).1
    by_cases live : before.standing.connected = true
    · rw [disconnect_of_connected before moment live]
      exact .disconnected live
    · have lost : before.standing.connected = false := by simpa using live
      rw [disconnect_of_not_connected before moment lost]
      exact .idle _ lost
  | shutdown => exact .stopped

section Changes

variable {before after : Connection} {moment : Moment} {event : Event}

theorem Shift.initialized (shift : Shift before moment event after)
    (named : before.history.isInitialized = true) : after.history.isInitialized = true := by
  cases shift with
  | tracked _ _ _ named => exact named
  | took _ _ _ _ _ _ named => exact named
  | _ => exact named

/-- Only an attempt makes a request wanted, and only an attempt changes its number. -/
theorem Shift.unstarted (shift : Shift before moment event after) (other : event ≠ .connect) :
    after.generation = before.generation ∧ (after.inFlight = true → before.inFlight = true) := by
  cases shift with
  | opened => exact absurd rfl other
  | failed => exact ⟨rfl, nofun⟩
  | ended => exact ⟨rfl, nofun⟩
  | disconnected => exact ⟨rfl, nofun⟩
  | stopped => exact ⟨rfl, nofun⟩
  | _ => exact ⟨rfl, id⟩

theorem Shift.timeout (shift : Shift before moment event after) :
    after.timeout = before.timeout := by
  cases shift <;> rfl

end Changes

/-! ### Runs -/

/-- The connection after a run of events, each at its moment. -/
def run (connection : Connection) (events : List (Event × Moment)) : Connection :=
  events.foldl (fun connection event => (connection.step event.1 event.2).connection) connection

@[simp] theorem run_append (connection : Connection) (first second : List (Event × Moment)) :
    connection.run (first ++ second) = (connection.run first).run second :=
  List.foldl_append

@[simp] theorem run_cons (connection : Connection) (event : Event × Moment)
    (rest : List (Event × Moment)) :
    connection.run (event :: rest) = (connection.step event.1 event.2).connection.run rest := rfl

/-- What the events of a run give, each at the connection it comes to. -/
def gather {Part : Type} (part : Connection → Event → Moment → List Part)
    (connection : Connection) : List (Event × Moment) → List Part
  | [] => []
  | (event, moment) :: rest =>
    part connection event moment ++ gather part (connection.step event moment).connection rest

theorem gather_append {Part : Type} (part : Connection → Event → Moment → List Part)
    (connection : Connection) (first second : List (Event × Moment)) :
    connection.gather part (first ++ second) =
      connection.gather part first ++ (connection.run first).gather part second := by
  induction first generalizing connection with
  | nil => rfl
  | cons event first inductionHypothesis =>
    rw [List.cons_append, gather, gather, inductionHypothesis, List.append_assoc, run_cons]

theorem gather_concat {Part : Type} (part : Connection → Event → Moment → List Part)
    (connection : Connection) (events : List (Event × Moment)) (event : Event)
    (moment : Moment) :
    connection.gather part (events ++ [(event, moment)]) =
      connection.gather part events ++ part (connection.run events) event moment := by
  rw [gather_append, gather, gather, List.append_nil]

/-- Whether an event starts a request. -/
def starts (connection : Connection) (moment : Moment) : Event → Bool
  | .connect => (connection.step .connect moment).error.isNone
  | _ => false

/-- How many requests a run starts. -/
def connects (connection : Connection) (events : List (Event × Moment)) : Nat :=
  (connection.gather (fun connection event moment => [connection.starts moment event])
    events).count true

theorem starts_of_ne (connection : Connection) (moment : Moment) {event : Event}
    (other : event ≠ .connect) : connection.starts moment event = false := by
  cases event with
  | connect => exact absurd rfl other
  | _ => rfl

theorem starts_connect {connection : Connection} (moment : Moment)
    (named : connection.history.isInitialized = true) :
    connection.starts moment .connect = true := by
  simp only [starts, step, connect, if_pos named]
  rfl

theorem connects_concat (connection : Connection) (events : List (Event × Moment))
    (event : Event) (moment : Moment) :
    connection.connects (events ++ [(event, moment)]) =
      connection.connects events + ((connection.run events).starts moment event).toNat := by
  rw [connects, gather_concat, List.count_append]
  cases (connection.run events).starts moment event <;> rfl

theorem Shift.named {before after : Connection} {moment : Moment} {event : Event}
    (shift : Shift before moment event after) (named : before.Named) : after.Named := by
  intro wanted
  cases shift with
  | idle => exact named wanted
  | tracked _ _ _ ready => exact ready
  | opened ready => exact ready
  | heard => exact named wanted
  | took _ _ _ _ _ _ ready => exact ready
  | failed => cases wanted
  | ended => cases wanted
  | disconnected => cases wanted
  | expired => exact named wanted
  | stopped => cases wanted

theorem run_named {connection : Connection} (named : connection.Named)
    (events : List (Event × Moment)) : (connection.run events).Named := by
  induction events generalizing connection with
  | nil => exact named
  | cons event rest inductionHypothesis =>
    exact inductionHypothesis ((shift_step event.2 event.1 named).named named)

theorem new_named (timeout : Nat) : (new timeout).Named := nofun

/-- An invariant of every change is an invariant of every run from the start. -/
theorem run_invariant {Holds : Connection → Prop} (timeout : Nat) (start : Holds (new timeout))
    (keeps : ∀ before moment event after, Shift before moment event after → Holds before →
      Holds after) (events : List (Event × Moment)) : Holds ((new timeout).run events) := by
  suffices general : ∀ connection : Connection, connection.Named → Holds connection →
      Holds (connection.run events) from general _ (new_named timeout) start
  induction events with
  | nil => exact fun _ _ holds => holds
  | cons event rest inductionHypothesis =>
    intro connection named holds
    have shift := shift_step event.2 event.1 named
    exact inductionHypothesis _ (shift.named named) (keeps _ _ _ _ shift holds)

theorem timeout_run (timeout : Nat) (events : List (Event × Moment)) :
    ((new timeout).run events).timeout = timeout := by
  have keeps : ∀ before moment event after, Shift before moment event after →
      before.timeout = timeout → after.timeout = timeout :=
    fun _ _ _ _ shift same => shift.timeout.trans same
  refine run_invariant timeout ?_ keeps events
  rfl

end TreeWatch.Connection
