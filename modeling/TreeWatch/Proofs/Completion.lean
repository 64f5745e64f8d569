/-
This file settles what becomes of a connection whose request ends before it delivered a
single octet. It is meant to count as broken, so that the server is not asked without pause.
The connection decides by what was reported on the request, not by the octets: a report of
no octets at all counts as well. So it waits for one timeout exactly if nothing whatever was
reported, and otherwise asks again at once (`empty_completion_waits_iff`).
-/

import TreeWatch.Proofs.Banner

namespace TreeWatch.Connection

/-! ### What was reported -/

/-- The chunks reported on a request after one more event. A new request starts afresh. -/
def report (generation : Nat) (chunks : List Bytes) : Event → List Bytes
  | .connect => []
  | .progress other chunk => if other = generation then chunks ++ [chunk] else chunks
  | _ => chunks

/-- All chunks reported under a request's number since a request was last opened. -/
def reported (generation : Nat) (events : List (Event × Moment)) : List Bytes :=
  events.foldl (fun chunks event => report generation chunks event.1) []

theorem reported_concat (generation : Nat) (events : List (Event × Moment))
    (event : Event × Moment) : reported generation (events ++ [event]) =
      report generation (reported generation events) event.1 := by
  rw [reported, List.foldl_append]
  rfl

theorem delivered_eq_flatten (generation : Nat) (events : List (Event × Moment)) :
    delivered generation events = (reported generation events).flatten := by
  induction events using List.reverseRecOn with
  | nil => rfl
  | append_singleton events event inductionHypothesis =>
    rw [delivered_concat, reported_concat, inductionHypothesis]
    cases event.1 with
    | progress other chunk =>
      by_cases same : other = generation <;> simp [deliver, report, same]
    | _ => rfl

theorem heard_eq_false_iff (generation : Nat) (events : List (Event × Moment)) :
    heard generation events = false ↔ reported generation events = [] := by
  induction events using List.reverseRecOn with
  | nil => exact ⟨fun _ => rfl, fun _ => rfl⟩
  | append_singleton events event inductionHypothesis =>
    rw [heard_concat, reported_concat]
    cases event.1 with
    | connect => exact ⟨fun _ => rfl, fun _ => rfl⟩
    | progress other chunk =>
      by_cases same : other = generation
      · simp [hear, report, same]
      · rw [hear, report, if_neg same, if_neg same]
        exact inductionHypothesis
    | _ => exact inductionHypothesis

/-! ### The end of a request -/

variable {connection : Connection} {generation : Nat} (moment : Moment)

theorem complete_of_received (current : connection.isCurrent generation = true)
    (received : connection.received = true) :
    (connection.complete generation moment).1 =
        { connection with inFlight := false, retryAt? := some moment.now } ∧
      (connection.complete generation moment).2.filterMap Effect.paint? = [] := by
  rw [complete, if_pos current, if_pos received]
  exact ⟨rfl, rfl⟩

theorem complete_of_unheard (current : connection.isCurrent generation = true)
    (nothing : connection.received = false) :
    connection.complete generation moment =
      connection.fail (.request .emptyResponse) moment := by
  rw [complete, if_pos current, if_neg (by simp [nothing])]

/-- A request ends after any number of chunks of no octets, and nothing else. It is treated as
broken exactly if that number is zero. The server then counts as lost and the banner says so,
and the next attempt is made one timeout later. Otherwise the next attempt is made at once,
and what is known and shown of the server stays as it is. -/
theorem empty_completion_waits_iff (timeout : Nat) (events : List (Event × Moment))
    (generation : Nat) (moment : Moment)
    (current : ((new timeout).run events).isCurrent generation = true)
    (empty : delivered generation events = []) :
    let connection := (new timeout).run events
    let ended := events ++ [(.complete generation, moment)]
    let after := (new timeout).run ended
    ∃ count, reported generation events = List.replicate count [] ∧
      (connection.complete generation moment =
        connection.fail (.request .emptyResponse) moment ↔ count = 0) ∧
      (count = 0 → after.standing.connected = false ∧
        after.retryAt? = some (moment.now + timeout) ∧
        ∃ time, after.standing.disconnectedSince = some time ∧
          ((new timeout).banners ended).getLast? = some (.disconnectedSince time)) ∧
      (0 < count → after.retryAt? = some moment.now ∧ after.standing = connection.standing ∧
        (new timeout).banners ended = (new timeout).banners events) := by
  intro connection ended after
  obtain ⟨wanted, rfl⟩ := (connection.isCurrent_iff generation).mp current
  have ran : after = (connection.complete connection.generation moment).1 := by
    show (new timeout).run (events ++ [_]) = _
    rw [run_append]
    rfl
  have steady : connection.Steady := run_steady timeout events
  have blank : ∀ chunk ∈ reported connection.generation events, chunk = [] := by
    rw [delivered_eq_flatten] at empty
    exact List.flatten_eq_nil_iff.mp empty
  have count := List.eq_replicate_of_mem blank
  refine ⟨_, count, ?_⟩
  rw [List.length_eq_zero_iff, List.length_pos_iff, ← heard_eq_false_iff, ne_eq,
    ← heard_eq_false_iff, ← received_run timeout events wanted]
  cases received : connection.received with
  | false =>
    have broken := complete_of_unheard moment current received
    have fails := fails_fail connection (.request .emptyResponse) moment
    rw [← broken, ← ran] at fails
    refine ⟨⟨fun _ => rfl, fun _ => broken⟩, fun _ => ⟨fails.lost, ?_, ?_⟩, nofun⟩
    · rw [fails.planned, steady.alone wanted, timeout_run]
      split <;> rfl
    · have truthful := truthful_run timeout ended
      exact (truthful.lost fails.lost).resolve_left fun blank => fails.not_blank blank.1
  | true =>
    obtain ⟨replaced, unshown⟩ := complete_of_received moment current received
    rw [replaced] at ran
    refine ⟨⟨fun same => ?_, nofun⟩, nofun, fun _ => ⟨by rw [ran], by rw [ran], ?_⟩⟩
    · -- A failure turns the watchdog off, while the end of a request leaves it on.
      have unwatched := (fails_fail connection (.request .emptyResponse) moment).unwatched
      rw [← same, replaced] at unwatched
      have watched := steady.watched wanted
      rw [Watchdog.isArmed, unwatched] at watched
      cases watched
    · show (new timeout).banners (events ++ [_]) = _
      rw [banners_concat]
      show _ ++ List.filterMap _ (List.filterMap _ (connection.complete _ moment).2) = _
      rw [unshown, List.filterMap_nil, List.append_nil]

/-- One chunk of no octets arrives before the request ends. -/
theorem empty_completion_waits_iff_empty_chunk :
    let events : List (Event × Moment) :=
      [(.track ["pump"], ⟨0, 0⟩), (.connect, ⟨0, 0⟩), (.progress 1 [], ⟨5, 0⟩)]
    let connection := (new 100).run events
    connection.isCurrent 1 = true ∧ delivered 1 events = [] ∧
      connection.complete 1 ⟨9, 0⟩ ≠ connection.fail (.request .emptyResponse) ⟨9, 0⟩ ∧
      (connection.step (.complete 1) ⟨9, 0⟩).connection.retryAt? = some 9 := by
  intro events connection
  obtain ⟨count, chunks, broken, _, again⟩ :=
    empty_completion_waits_iff 100 events 1 ⟨9, 0⟩ rfl rfl
  have one : count = 1 := by
    have length := congrArg List.length chunks
    rw [List.length_replicate] at length
    exact length.symm
  refine ⟨rfl, rfl, fun same => ?_, (again (by omega)).1⟩
  rw [one] at broken
  cases broken.mp same

end TreeWatch.Connection
