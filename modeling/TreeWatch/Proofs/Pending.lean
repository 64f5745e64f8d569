/-
This file proves that a connection never waits for nothing and never asks twice. A
wanted request and a planned attempt exclude each other whatever happens, and a wanted
request is always watched. From the first successful request until someone shuts the
connection down, one of the two exists at every moment.
-/

import TreeWatch.Proofs.Run

namespace TreeWatch.Connection

/-- A wanted request is watched, and no other attempt is planned beside it. -/
structure Steady (connection : Connection) : Prop where
  alone : connection.inFlight = true → connection.retryAt? = none
  watched : connection.inFlight = true → connection.watchdog.isArmed = true

/-- There is a wanted request or a planned attempt. -/
def Busy (connection : Connection) : Prop :=
  connection.inFlight = true ∨ connection.retryAt?.isSome = true

variable {before after : Connection} {moment : Moment} {event : Event}

theorem Shift.steady (shift : Shift before moment event after) (steady : before.Steady) :
    after.Steady := by
  cases shift with
  | idle => exact steady
  | tracked => exact ⟨steady.alone, steady.watched⟩
  | opened => exact ⟨fun _ => rfl, fun _ => rfl⟩
  | heard => exact ⟨steady.alone, fun _ => rfl⟩
  | took => exact ⟨steady.alone, fun _ => rfl⟩
  | failed => exact ⟨nofun, nofun⟩
  | ended => exact ⟨nofun, nofun⟩
  | disconnected => exact ⟨nofun, nofun⟩
  | expired unwanted =>
    have idle : ∀ {goal : Prop}, before.inFlight = true → goal := fun wanted =>
      absurd wanted (by simp [unwanted])
    exact ⟨idle, idle⟩
  | stopped => exact ⟨nofun, nofun⟩

/-- Only a shutdown leaves nothing pending: a request that ends otherwise leaves an
attempt behind. -/
theorem Shift.busy (shift : Shift before moment event after) (going : event ≠ .shutdown)
    (busy : before.Busy) : after.Busy := by
  cases shift with
  | idle => exact busy
  | tracked => exact busy
  | opened => exact Or.inl rfl
  | heard _ _ current => exact Or.inl ((before.isCurrent_iff _).mp current).1
  | took _ _ current => exact Or.inl ((before.isCurrent_iff _).mp current).1
  | failed =>
    refine Or.inr ?_
    cases before.standing.connected <;> cases before.retryAt? <;> rfl
  | ended => exact Or.inr rfl
  | disconnected => exact Or.inr rfl
  | expired => exact busy
  | stopped => exact absurd rfl going

theorem run_steady (timeout : Nat) (events : List (Event × Moment)) :
    ((new timeout).run events).Steady :=
  run_invariant timeout ⟨nofun, nofun⟩ (fun _ _ _ _ shift steady => shift.steady steady) events

theorem run_busy {connection : Connection} (named : connection.Named) (busy : connection.Busy)
    (events : List (Event × Moment)) (going : ∀ event ∈ events, event.1 ≠ .shutdown) :
    (connection.run events).Busy := by
  induction events generalizing connection with
  | nil => exact busy
  | cons event rest inductionHypothesis =>
    have shift := shift_step event.2 event.1 named
    exact inductionHypothesis (shift.named named)
      (shift.busy (going event List.mem_cons_self) busy)
      (fun later member => going later (List.mem_cons_of_mem _ member))

/-- A request that was started is wanted. -/
theorem busy_of_connect {opened : Connection × List Effect}
    (done : before.connect moment = .ok opened) :
    (before.step .connect moment).connection.Busy := by
  obtain ⟨opened, effects⟩ := opened
  obtain ⟨_, rfl⟩ := opened_of_connect done
  refine Or.inl ?_
  show (Outcome.ofResult before (before.connect moment)).connection.inFlight = true
  rw [done]
  rfl

/-- After any events whatsoever a connection has a wanted request or a planned attempt,
never both; it has exactly one of them whenever a request was started and nobody shut the
connection down since. A wanted request is always watched. -/
theorem request_xor_retry (timeout : Nat) (events : List (Event × Moment)) :
    let connection := (new timeout).run events
    ¬ (connection.inFlight = true ∧ connection.retryAt?.isSome = true) ∧
      (connection.inFlight = true → connection.watchdog.isArmed = true) ∧
      ∀ earlier opening later opened, events = earlier ++ (.connect, opening) :: later →
        ((new timeout).run earlier).connect opening = .ok opened →
        (∀ event ∈ later, event.1 ≠ .shutdown) →
          connection.inFlight = !connection.retryAt?.isSome := by
  intro connection
  have steady : connection.Steady := run_steady timeout events
  have exclusive : ¬ (connection.inFlight = true ∧ connection.retryAt?.isSome = true) := by
    rintro ⟨wanted, planned⟩
    rw [steady.alone wanted] at planned
    cases planned
  refine ⟨exclusive, steady.watched, ?_⟩
  intro earlier opening later opened split done going
  have busy : connection.Busy := by
    show ((new timeout).run events).Busy
    rw [split, run_append, run_cons]
    have named := run_named (new_named timeout) earlier
    exact run_busy ((shift_step opening .connect named).named named) (busy_of_connect done) later
      going
  rcases busy with wanted | planned
  · rw [wanted, steady.alone wanted]
    rfl
  · have unwanted : connection.inFlight = false := by
      simpa using fun wanted => exclusive ⟨wanted, planned⟩
    rw [unwanted, planned]
    rfl

/-- A request that breaks on the octet `a` leaves exactly one attempt behind. -/
theorem request_xor_retry_broken :
    let events : List (Event × Moment) := [(.track ["pump"], ⟨0, 0⟩), (.connect, ⟨0, 0⟩),
      (.progress 1 [0x61], ⟨5, 0⟩), (.watchdogDue, ⟨200, 0⟩)]
    ((new 100).run events).inFlight = !((new 100).run events).retryAt?.isSome ∧
      ((new 100).run events).retryAt? = some 105 := by
  refine ⟨?_, rfl⟩
  exact (request_xor_retry 100 _).2.2 [(.track ["pump"], ⟨0, 0⟩)] ⟨0, 0⟩
    [(.progress 1 [0x61], ⟨5, 0⟩), (.watchdogDue, ⟨200, 0⟩)] _ rfl rfl (by simp)

end TreeWatch.Connection
