/-
This file follows a connection after its shutdown, up to the next attempt. No request is wanted
any more, so every report is stale and the watchdog has nothing to watch. What was known about
the server is kept, however: a connection that was live when it was shut down can still be
ended, and ending a live connection plans an attempt. Nothing else plans one, and it happens
once at most (`shutdown_leaves_disconnect`).
-/

import TreeWatch.Proofs.Run

namespace TreeWatch.Connection

variable {connection before after : Connection} {event : Event} {moment : Moment}

/-- No request is wanted and the watchdog is off; an attempt may be planned. -/
structure Quiet (connection : Connection) : Prop where
  unwanted : connection.inFlight = false
  unwatched : connection.watchdog.deadline = none

theorem quiet_shutdown (connection : Connection) : connection.shutdown.Quiet := ⟨rfl, rfl⟩

theorem Quiet.isCurrent (quiet : connection.Quiet) (generation : Nat) :
    connection.isCurrent generation = false := by
  rw [Connection.isCurrent, quiet.unwanted, Bool.false_and]

/-- Whether an event ends the connection by hand. -/
def Event.isDisconnect : Event → Bool
  | .disconnect => true
  | _ => false

/-- The attempt that is planned after one more event on a quiet connection: only ending a live
connection changes the plan. -/
def replanned (connection : Connection) (event : Event) (moment : Moment) : Option Nat :=
  if connection.standing.connected && event.isDisconnect then some (moment.now + connection.timeout)
  else connection.retryAt?

/-- A quiet connection stays quiet until the next attempt. It is live afterwards if it was and
nobody ended it. -/
theorem Shift.quiet (shift : Shift before moment event after) (quiet : before.Quiet)
    (waits : event ≠ .connect ∧ event ≠ .shutdown) :
    after.Quiet ∧ after.retryAt? = before.replanned event moment ∧
      after.standing.connected = (before.standing.connected && !event.isDisconnect) := by
  have unwanted : before.inFlight ≠ true := by simp [quiet.unwanted]
  have stale (generation : Nat) : before.isCurrent generation ≠ true := by
    simp [quiet.isCurrent generation]
  cases shift with
  | idle _ futile =>
    refine ⟨quiet, ?_⟩
    cases event with
    | disconnect =>
      rw [Futile] at futile
      simp [replanned, futile]
    | _ => simp [replanned, Event.isDisconnect]
  | tracked => exact ⟨⟨quiet.unwanted, quiet.unwatched⟩, by simp [replanned, Event.isDisconnect]⟩
  | opened => exact absurd rfl waits.1
  | heard generation _ current => exact absurd current (stale generation)
  | took generation _ current => exact absurd current (stale generation)
  | failed _ wanted => exact absurd wanted unwanted
  | ended generation current => exact absurd current (stale generation)
  | disconnected live =>
    refine ⟨⟨rfl, rfl⟩, ?_, ?_⟩
    · simp [replanned, live, Event.isDisconnect]
    · simp [Standing.lost, Event.isDisconnect]
  | expired => exact ⟨⟨quiet.unwanted, rfl⟩, by simp [replanned, Event.isDisconnect]⟩
  | stopped => exact absurd rfl waits.2

/-- The instant of the first event that ends the connection by hand. -/
def ending? (events : List (Event × Moment)) : Option Nat :=
  (events.find? fun event => event.1.isDisconnect).map fun event => event.2.now

/-- Whatever comes to a quiet connection before the next attempt, only one event can change its
plan: the first that ends it by hand, if it was live. -/
theorem Quiet.run (quiet : connection.Quiet) {later : List (Event × Moment)}
    (waits : ∀ event ∈ later, event.1 ≠ .connect ∧ event.1 ≠ .shutdown) :
    (connection.run later).Quiet ∧
      (connection.run later).retryAt? =
        ((if connection.standing.connected then ending? later else none).map
          (· + connection.timeout)).or connection.retryAt? := by
  induction later generalizing connection with
  | nil => simp [quiet, Connection.run, ending?]
  | cons event rest inductionHypothesis =>
    obtain ⟨event, moment⟩ := event
    have shift := shift_step moment event (show connection.Named by simp [Named, quiet.unwanted])
    obtain ⟨still, planned, live⟩ := shift.quiet quiet (waits _ List.mem_cons_self)
    obtain ⟨quiet, plan⟩ :=
      inductionHypothesis still fun later member => waits later (List.mem_cons_of_mem _ member)
    refine ⟨quiet, plan.trans ?_⟩
    rw [planned, live, shift.timeout, replanned, ending?, ending?, List.find?_cons]
    cases connection.standing.connected <;> cases event.isDisconnect <;> simp

/-- From a shutdown to the next attempt no request is wanted and the watchdog is off, whatever is
reported and whatever becomes due. No attempt is planned either, unless the connection was live
when it was shut down and is then ended by hand: the first time this happens an attempt is
planned, one timeout ahead. -/
theorem shutdown_leaves_disconnect (timeout : Nat) (events : List (Event × Moment))
    (stopping : Moment) (later : List (Event × Moment))
    (waits : ∀ event ∈ later, event.1 ≠ .connect ∧ event.1 ≠ .shutdown) :
    let connection := (new timeout).run events
    let ended := (connection.step .shutdown stopping).connection.run later
    ended.watchdog.isArmed = false ∧ (∀ generation, ended.isCurrent generation = false) ∧
      ended.retryAt? =
        if connection.standing.connected then (ending? later).map (· + timeout) else none := by
  intro connection ended
  have kept : connection.shutdown.standing = connection.standing := rfl
  have same : connection.shutdown.timeout = timeout := timeout_run timeout events
  have unplanned : connection.shutdown.retryAt? = none := rfl
  obtain ⟨quiet, plan⟩ : ended.Quiet ∧ _ := (quiet_shutdown connection).run waits
  refine ⟨?_, quiet.isCurrent, plan.trans ?_⟩
  · rw [Watchdog.isArmed, quiet.unwatched, Option.isSome_none]
  · rw [kept, same, unplanned, Option.or_none]
    split <;> rfl

/-- A live connection is shut down. Late octets and the end of its request do nothing, nor does
the watchdog. It is ended by hand twice, and the first time an attempt is planned. -/
theorem shutdown_leaves_disconnect_live :
    let events : List (Event × Moment) := [(.track ["pump"], ⟨0, 0⟩), (.connect, ⟨0, 0⟩),
      (.progress 1 (Utf8.encode "\x7b\"timestamp\":1,\"pump\":\"on\"\x7d"), ⟨20, 3⟩)]
    let later : List (Event × Moment) := [(.progress 1 [0x61], ⟨35, 4⟩), (.complete 1, ⟨40, 4⟩),
      (.disconnect, ⟨50, 4⟩), (.watchdogDue, ⟨300, 5⟩), (.disconnect, ⟨310, 5⟩)]
    let ended := (((new 100).run events).step .shutdown ⟨30, 3⟩).connection.run later
    (∀ event ∈ later, event.1 ≠ .connect ∧ event.1 ≠ .shutdown) ∧
      ended.watchdog.isArmed = false ∧ ended.isCurrent 1 = false ∧
      ended.retryAt? = some 150 := by
  intro events later ended
  have waits : ∀ event ∈ later, event.1 ≠ .connect ∧ event.1 ≠ .shutdown := by simp [later]
  obtain ⟨off, unwanted, planned⟩ := shutdown_leaves_disconnect 100 events ⟨30, 3⟩ later waits
  exact ⟨waits, off, unwanted 1, planned⟩

/-- A shutdown is not final for a live connection: ended by hand afterwards, it has an attempt
planned again. -/
theorem shutdown_not_final :
    let events : List (Event × Moment) := [(.track ["A"], ⟨0, 0⟩), (.connect, ⟨0, 0⟩),
      (.progress 1 (Utf8.encode "\x7b\"timestamp\":1,\"A\":\"x\"\x7d"), ⟨20, 0⟩)]
    let stopped := (((new 100).run events).step .shutdown ⟨30, 0⟩).connection
    let ended := stopped.run [(.disconnect, ⟨40, 0⟩)]
    ended.retryAt? = some 140 ∧
      ¬ (ended.watchdog.isArmed = false ∧ ended.retryAt? = none ∧
        ∀ generation, ended.isCurrent generation = false) := by
  intro events stopped ended
  have planned : ended.retryAt? = some 140 := rfl
  refine ⟨planned, fun final => ?_⟩
  rw [planned] at final
  cases final.2.1

end TreeWatch.Connection
