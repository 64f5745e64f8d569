/-
This file proves that a request which is over cannot interfere. Requests are numbered in
the order they start, so a number that has been given out and is not wanted any more never
becomes wanted again, whatever happens (`Shift.gone`). Reports about such requests may come
late and at any time. They change nothing and paint nothing, so a run from which some of
them are left out is, to everyone who looks, the same run (`stale_reports_without_trace`).
-/

import TreeWatch.Proofs.Showing

namespace TreeWatch.Connection

variable {connection before after : Connection} {event : Event} {moment : Moment}

/-! ### Events nothing comes of -/

/-- A futile event changes nothing and paints nothing. -/
theorem step_futile (futile : connection.Futile moment event) :
    (connection.step event moment).connection = connection ∧
      (connection.step event moment).paints = [] := by
  cases event with
  | track entities =>
    rw [Futile] at futile
    simp only [step, track_named futile]
    exact ⟨rfl, rfl⟩
  | connect =>
    rw [Futile] at futile
    simp only [step, connect, futile]
    exact ⟨rfl, rfl⟩
  | progress generation chunk =>
    simp only [step, progress_stale moment futile]
    exact ⟨rfl, rfl⟩
  | requestError generation error =>
    rw [Futile] at futile
    simp only [step, requestError, futile]
    exact ⟨rfl, rfl⟩
  | complete generation =>
    rw [Futile] at futile
    simp only [step, complete, futile]
    exact ⟨rfl, rfl⟩
  | watchdogDue =>
    simp only [step, connection.watchdogDue_early moment futile]
    exact ⟨rfl, rfl⟩
  | disconnect =>
    rw [Futile] at futile
    simp only [step, disconnect, futile]
    exact ⟨rfl, rfl⟩
  | shutdown => cases futile

/-- An event reports about a request that is not wanted. -/
def Stale (connection : Connection) (event : Event) : Prop :=
  ∃ generation ∈ event.generation?, connection.isCurrent generation = false

theorem Stale.futile (stale : connection.Stale event) : connection.Futile moment event := by
  obtain ⟨generation, about, unwanted⟩ := stale
  cases event with
  | progress other chunk => exact Option.some.inj about ▸ unwanted
  | requestError other error => exact Option.some.inj about ▸ unwanted
  | complete other => exact Option.some.inj about ▸ unwanted
  | _ => cases about

/-! ### Numbers of requests -/

theorem Shift.generation_le (shift : Shift before moment event after) :
    before.generation ≤ after.generation := by
  cases shift with
  | opened => exact Nat.le_succ _
  | _ => exact Nat.le_refl _

/-- A request that was started and is not wanted any more stays so. -/
theorem Shift.gone (shift : Shift before moment event after) {generation : Nat}
    (started : generation ≤ before.generation) (gone : before.isCurrent generation = false) :
    after.isCurrent generation = false := by
  by_contra wanted
  obtain ⟨flying, number⟩ := (after.isCurrent_iff generation).mp (by simpa using wanted)
  by_cases attempt : event = .connect
  · subst attempt
    cases shift with
    | idle => exact wanted gone
    -- A new request takes the next number, which was not given out yet.
    | opened => exact Nat.not_succ_le_self _ (number ▸ started)
    | failed => cases flying
  · obtain ⟨same, still⟩ := shift.unstarted attempt
    have current := (before.isCurrent_iff generation).mpr ⟨still flying, number.trans same⟩
    rw [gone] at current
    cases current

theorem generation_le_run (named : connection.Named) (events : List (Event × Moment)) :
    connection.generation ≤ (connection.run events).generation := by
  induction events generalizing connection with
  | nil => exact Nat.le_refl _
  | cons event rest inductionHypothesis =>
    have shift := shift_step event.2 event.1 named
    exact shift.generation_le.trans (inductionHypothesis (shift.named named))

theorem run_gone (named : connection.Named) {generation : Nat}
    (started : generation ≤ connection.generation)
    (gone : connection.isCurrent generation = false) (events : List (Event × Moment)) :
    (connection.run events).isCurrent generation = false := by
  induction events generalizing connection with
  | nil => exact gone
  | cons event rest inductionHypothesis =>
    have shift := shift_step event.2 event.1 named
    exact inductionHypothesis (shift.named named) (started.trans shift.generation_le)
      (shift.gone started gone)

/-- A request that is wanted in the end was wanted all the time. -/
theorem current_of_run (named : connection.Named) {generation : Nat}
    (started : generation ≤ connection.generation) {events : List (Event × Moment)}
    (still : (connection.run events).isCurrent generation = true) :
    connection.isCurrent generation = true := by
  by_contra gone
  rw [run_gone named started (by simpa using gone) events] at still
  cases still

/-- The newest request carries the number of requests that were started. The number grows
without bound here; where it is kept in 64 bits this speaks of runs that start fewer than 2^64
requests, beyond which numbers come back. -/
theorem generation_run (timeout : Nat) (events : List (Event × Moment)) :
    ((new timeout).run events).generation = (new timeout).connects events := by
  induction events using List.reverseRecOn with
  | nil => rfl
  | append_singleton events event inductionHypothesis =>
    have named := run_named (new_named timeout) events
    obtain ⟨event, moment⟩ := event
    rw [connects_concat, ← inductionHypothesis, run_append]
    show (((new timeout).run events).step event moment).connection.generation = _
    generalize (new timeout).run events = connection at named
    by_cases attempt : event = .connect
    · subst attempt
      cases ready : connection.history.isInitialized with
      | true =>
        rw [starts_connect moment ready]
        simp only [step, connect, if_pos ready]
        rfl
      | false =>
        obtain ⟨same, _⟩ := step_futile (show connection.Futile moment .connect from ready)
        rw [same, starts, step, connect, if_neg (by simp [ready])]
        rfl
    · rw [starts_of_ne connection moment attempt]
      exact ((shift_step moment event named).unstarted attempt).1

/-! ### Leaving reports out -/

/-- The second run is the first without some of the reports that were stale when they
came. -/
inductive Thinned : Connection → List (Event × Moment) → List (Event × Moment) → Prop where
  | nil (connection : Connection) : Thinned connection [] []
  | keep {connection : Connection} {event : Event} {moment : Moment}
      {events kept : List (Event × Moment)}
      (rest : Thinned (connection.step event moment).connection events kept) :
      Thinned connection ((event, moment) :: events) ((event, moment) :: kept)
  | drop {connection : Connection} {event : Event} {moment : Moment}
      {events kept : List (Event × Moment)} (stale : connection.Stale event)
      (rest : Thinned (connection.step event moment).connection events kept) :
      Thinned connection ((event, moment) :: events) kept

variable {events kept : List (Event × Moment)}

theorem Thinned.run (thinned : Thinned connection events kept) :
    connection.run kept = connection.run events := by
  induction thinned with
  | nil => rfl
  | keep _ inductionHypothesis => exact inductionHypothesis
  | @drop connection event moment events kept stale _ inductionHypothesis =>
    rw [run_cons, ← inductionHypothesis, (step_futile stale.futile).1]

/-- What stale reports do not give, a run gives just as well without them. -/
theorem Thinned.gather {Part : Type} {part : Connection → Event → Moment → List Part}
    (silent : ∀ connection event moment, Stale connection event →
      part connection event moment = []) (thinned : Thinned connection events kept) :
    connection.gather part kept = connection.gather part events := by
  induction thinned with
  | nil => rfl
  | keep _ inductionHypothesis => rw [Connection.gather, Connection.gather, inductionHypothesis]
  | @drop connection event moment events kept stale _ inductionHypothesis =>
    rw [Connection.gather, silent connection event moment stale, List.nil_append,
      ← inductionHypothesis, (step_futile stale.futile).1]

/-- What an attempt answers: the number of the request it starts, or why there is none. -/
def answer (connection : Connection) : Event → Moment → List (Except InitializationError Nat)
  | .connect, moment => [(connection.connect moment).map (·.1.generation)]
  | _, _ => []

/-- What all attempts of a run answer. -/
def answers (connection : Connection) (events : List (Event × Moment)) :
    List (Except InitializationError Nat) :=
  connection.gather answer events

/-- A request that is over is never wanted again; requests are numbered one after the other.
A run from which reports are left out that came about requests not wanted at the time ends
in the same state; its attempts answer the same and it paints the same. -/
theorem stale_reports_without_trace (timeout : Nat) (events : List (Event × Moment)) :
    ((new timeout).run events).generation = (new timeout).connects events ∧
      (∀ earlier opening between later opened effects,
        events = earlier ++ (.connect, opening) :: (between ++ later) →
        ((new timeout).run earlier).connect opening = .ok (opened, effects) →
        (opened.run between).isCurrent opened.generation = false →
          ((new timeout).run events).isCurrent opened.generation = false) ∧
      ∀ kept, Thinned (new timeout) events kept →
        (new timeout).run kept = (new timeout).run events ∧
          (new timeout).answers kept = (new timeout).answers events ∧
          (new timeout).painted kept = (new timeout).painted events := by
  refine ⟨generation_run timeout events, ?_, fun kept thinned => ⟨thinned.run, ?_, ?_⟩⟩
  · intro earlier opening between later opened effects split request gone
    have named := run_named (new_named timeout) earlier
    have opens : (((new timeout).run earlier).step .connect opening).connection = opened := by
      rw [step, request]
      rfl
    have openedNamed : opened.Named := opens ▸ (shift_step opening .connect named).named named
    rw [split, run_append, run_cons, opens, run_append]
    exact run_gone (run_named openedNamed between) (generation_le_run openedNamed between) gone
      later
  · refine thinned.gather fun connection event moment stale => ?_
    obtain ⟨generation, about, _⟩ := stale
    cases event with
    | connect => cases about
    | _ => rfl
  · exact thinned.gather fun connection event moment stale => (step_futile stale.futile).2

/-- The first request is superseded; garbage on it and its end come late, the one before and
the other after a snapshot on the second request. -/
theorem stale_reports_without_trace_superseded :
    let opening : List (Event × Moment) :=
      [(.track ["pump"], ⟨0, 0⟩), (.connect, ⟨0, 0⟩), (.connect, ⟨5, 0⟩)]
    let arrival : Event × Moment :=
      (.progress 2 (Utf8.encode "\x7b\"timestamp\":1,\"pump\":\"on\"\x7d"), ⟨7, 3⟩)
    let events := opening ++ [(.progress 1 [0x61], ⟨6, 3⟩), arrival, (.complete 1, ⟨8, 3⟩)]
    ((new 100).run events).isCurrent 1 = false ∧
      (new 100).run (opening ++ [arrival]) = (new 100).run events ∧
      (new 100).answers (opening ++ [arrival]) = (new 100).answers events ∧
      (new 100).painted (opening ++ [arrival]) = (new 100).painted events := by
  intro opening arrival events
  obtain ⟨_, gone, without⟩ := stale_reports_without_trace 100 events
  have late : Thinned (new 100) events (opening ++ [arrival]) :=
    .keep (.keep (.keep (.drop ⟨1, rfl, rfl⟩ (.keep (.drop ⟨1, rfl, rfl⟩ (.nil _))))))
  exact ⟨gone [(.track ["pump"], ⟨0, 0⟩)] ⟨0, 0⟩ [(.connect, ⟨5, 0⟩)]
    [(.progress 1 [0x61], ⟨6, 3⟩), arrival, (.complete 1, ⟨8, 3⟩)] _ _ rfl rfl rfl,
    without _ late⟩

end TreeWatch.Connection
