/-
This file proves that the watchdog is exact. A wanted request shows signs of life: it is opened,
and octets arrive on it. Nothing else touches the deadline while the request is wanted
(`Shift.signed`), so over a run of any length it lies one timeout behind the last sign of life,
whatever order the instants come in. The watchdog does nothing before, and from then on it gives
the request up at the first occasion (`deadline_follows_signs`).
-/

import TreeWatch.Proofs.Failures

namespace TreeWatch.Connection

variable {before after : Connection} {moment : Moment} {event : Event}

/-! ### Signs of life -/

/-- The instant at which an event is a sign of life of a request: it opens the request, or
brings octets on it while it is wanted. -/
def sign (generation : Nat) (connection : Connection) (event : Event) (moment : Moment) :
    List Nat :=
  match event with
  | .connect =>
    if connection.starts moment .connect ∧ generation = connection.generation + 1
    then [moment.now] else []
  | .progress other _ =>
    if connection.isCurrent other ∧ generation = other then [moment.now] else []
  | _ => []

/-- The instants of all signs of life of a request, in the order of the events. -/
def signs (connection : Connection) (generation : Nat) (events : List (Event × Moment)) :
    List Nat :=
  connection.gather (sign generation) events

theorem signs_concat (connection : Connection) (generation : Nat)
    (events : List (Event × Moment)) (event : Event) (moment : Moment) :
    connection.signs generation (events ++ [(event, moment)]) =
      connection.signs generation events ++ sign generation (connection.run events) event moment :=
  gather_concat ..

/-- An event after which a request is wanted is a sign of life and sets the deadline, or it is
none and leaves the deadline alone. -/
theorem Shift.signed (shift : Shift before moment event after) (named : before.Named)
    (wanted : after.inFlight = true) :
    (sign after.generation before event moment = [moment.now] ∧
        after.watchdog.deadline = some (moment.now + before.timeout)) ∨
      (sign after.generation before event moment = [] ∧ after.watchdog = before.watchdog ∧
        before.inFlight = true ∧ after.generation = before.generation) := by
  cases shift with
  | idle _ futile =>
    refine Or.inr ⟨?_, rfl, wanted, rfl⟩
    cases event with
    | connect =>
      rw [Futile, named wanted] at futile
      cases futile
    | progress other chunk =>
      rw [Futile] at futile
      simp [sign, futile]
    | _ => rfl
  | tracked => exact Or.inr ⟨rfl, rfl, wanted, rfl⟩
  | opened ready => exact Or.inl ⟨if_pos ⟨starts_connect moment ready, rfl⟩, rfl⟩
  | heard other chunk current =>
    exact Or.inl ⟨if_pos ⟨current, ((before.isCurrent_iff other).mp current).2.symm⟩, rfl⟩
  | took other chunk current =>
    exact Or.inl ⟨if_pos ⟨current, ((before.isCurrent_iff other).mp current).2.symm⟩, rfl⟩
  | failed => cases wanted
  | ended => cases wanted
  | disconnected => cases wanted
  | expired unwanted =>
    rw [unwanted] at wanted
    cases wanted
  | stopped => cases wanted

/-- The deadline of a wanted request lies one timeout behind its last sign of life. -/
theorem deadline_run (timeout : Nat) (events : List (Event × Moment))
    (wanted : ((new timeout).run events).inFlight = true) :
    ∃ last, ((new timeout).signs ((new timeout).run events).generation events).getLast? =
        some last ∧
      ((new timeout).run events).watchdog.deadline = some (last + timeout) := by
  induction events using List.reverseRecOn with
  | nil => cases wanted
  | append_singleton events event inductionHypothesis =>
    obtain ⟨event, moment⟩ := event
    have named := run_named (new_named timeout) events
    have ends : ((new timeout).run events).run [(event, moment)] =
        (((new timeout).run events).step event moment).connection := rfl
    rw [run_append, ends] at wanted ⊢
    rw [signs_concat]
    -- An attempt changes the number of the request, and is the first sign of life of the new one.
    rcases (shift_step moment event named).signed named wanted with
      ⟨alive, armed⟩ | ⟨silent, same, flying, number⟩
    · rw [timeout_run] at armed
      refine ⟨moment.now, ?_, armed⟩
      rw [alive, List.getLast?_concat]
    · obtain ⟨last, newest, deadline⟩ := inductionHypothesis flying
      refine ⟨last, ?_, same ▸ deadline⟩
      rw [silent, List.append_nil, number, newest]

/-! ### The watchdog -/

/-- The watchdog has nothing to do with a connection that wants no request. -/
theorem step_watchdogDue_unwanted (unwanted : before.inFlight = false) (moment : Moment) :
    before.step .watchdogDue moment =
      { connection := { before with watchdog := (before.watchdog.fire moment.now).1 } } := by
  cases due : before.watchdog.isDue moment.now with
  | false =>
    rw [step, watchdogDue_early before moment due, Watchdog.fire, due]
    rfl
  | true =>
    rw [step, watchdogDue_unwanted before moment due unwanted, Watchdog.fire, if_pos due]
    rfl

/-- The deadline of a wanted request lies one timeout behind its last sign of life. Before that
the watchdog changes nothing and does nothing; from then on it gives the request up and plans an
attempt one timeout ahead. Where no request is wanted it changes nothing but itself and does
nothing. -/
theorem deadline_follows_signs (timeout : Nat) (events : List (Event × Moment)) :
    let connection := (new timeout).run events
    (connection.inFlight = true →
      ∃ last, ((new timeout).signs connection.generation events).getLast? = some last ∧
        connection.watchdog.deadline = some (last + timeout) ∧
        (∀ moment : Moment, moment.now < last + timeout →
          connection.step .watchdogDue moment = { connection }) ∧
        ∀ moment : Moment, last + timeout ≤ moment.now →
          let outcome := connection.step .watchdogDue moment
          outcome.connection.inFlight = false ∧
            outcome.connection.retryAt? = some (moment.now + timeout)) ∧
    (connection.inFlight = false → ∀ moment : Moment,
      connection.step .watchdogDue moment = { connection := { connection with
        watchdog := (connection.watchdog.fire moment.now).1 } }) := by
  intro connection
  refine ⟨fun wanted => ?_, fun unwanted => step_watchdogDue_unwanted unwanted⟩
  obtain ⟨last, newest, deadline⟩ := deadline_run timeout events wanted
  refine ⟨last, newest, deadline, fun moment early => ?_, fun moment late => ?_⟩
  · have notDue : connection.watchdog.isDue moment.now = false := by
      simpa [Watchdog.isDue, connection, deadline] using early
    rw [step, watchdogDue_early connection moment notDue]
    rfl
  · have breaks : Breaks timeout events moment .watchdogDue := .stalled wanted _ deadline late
    exact ⟨breaks.fails.unwanted, breaks.planned⟩

/-- Octets at instant 80 put the deadline off to 180; octets on a request that never was do not.
At 150 nothing happens, at 200 the request is given up and the next attempt planned. A second
call finds no request. -/
theorem deadline_follows_signs_put_off :
    let events : List (Event × Moment) := [(.track ["pump"], ⟨0, 0⟩), (.connect, ⟨0, 0⟩),
      (.progress 1 [0x7b], ⟨80, 0⟩), (.progress 2 [0x7b], ⟨90, 0⟩)]
    let connection := (new 100).run events
    let given := (new 100).run (events ++ [(.watchdogDue, ⟨200, 0⟩)])
    connection.inFlight = true ∧ connection.watchdog.deadline = some 180 ∧
      connection.step .watchdogDue ⟨150, 0⟩ = { connection } ∧
      (connection.step .watchdogDue ⟨200, 0⟩).connection.retryAt? = some 300 ∧
      given.inFlight = false ∧ (given.step .watchdogDue ⟨250, 0⟩).effects = [] := by
  intro events connection given
  obtain ⟨last, newest, deadline, early, late⟩ := (deadline_follows_signs 100 events).1 rfl
  obtain rfl : 80 = last := Option.some.inj newest
  exact ⟨rfl, deadline, early ⟨150, 0⟩ (by decide), (late ⟨200, 0⟩ (by decide)).2, rfl,
    congrArg Outcome.effects ((deadline_follows_signs 100 _).2 rfl ⟨250, 0⟩)⟩

end TreeWatch.Connection
