/-
This file proves that a request that breaks leaves one attempt behind and nothing else
(`failure_leaves_one_attempt`). A request breaks in four ways: it is reported broken, what
was delivered on it is hopeless, it ends before anything was delivered, or nothing is heard
of it until its deadline (`Breaks`). Whichever it is, the connection is then at rest: no
request is wanted, the watchdog is off, the server counts as lost and the next attempt is
planned one timeout ahead. At rest every further report is futile, so neither the attempt
nor the banner can be touched before the next request or the shutdown.
-/

import TreeWatch.Proofs.Compaction
import TreeWatch.Proofs.Pending
import TreeWatch.Proofs.Stale

namespace TreeWatch

/-- A failure now is the first in a row: the server was there until now, or nothing has
failed yet. -/
def Standing.FirstFailure (standing : Standing) : Prop :=
  standing.connected = true ∨ standing.disconnectedSince = none

instance (standing : Standing) : Decidable standing.FirstFailure :=
  inferInstanceAs (Decidable (standing.connected = true ∨ standing.disconnectedSince = none))

namespace Connection

variable {connection before after : Connection} {event : Event} {moment : Moment}

/-! ### What a failure does -/

/-- A failure leads from one connection to another and shows this. Only the first failure in
a row is shown. -/
structure Fails (before : Connection) (moment : Moment) (after : Connection)
    (paints : List Paint) : Prop where
  standing : after.standing =
    if before.standing.FirstFailure then before.standing.lost moment.wall else before.standing
  unwanted : after.inFlight = false
  unwatched : after.watchdog.deadline = none
  planned : after.retryAt? =
    if before.standing.connected then some (moment.now + before.timeout)
    else before.retryAt? <|> some (moment.now + before.timeout)
  history : after.history = before.history
  paints : paints =
    if before.standing.FirstFailure then [.indicator (.disconnectedSince moment.wall)] else []

theorem fails_fail (connection : Connection) (failure : Failure) (moment : Moment) :
    Fails connection moment (connection.fail failure moment).1
      ((connection.fail failure moment).2.filterMap Effect.paint?) := by
  obtain ⟨standing, equal, _⟩ := connection.fail_eq moment failure
  have shown : (connection.fail failure moment).1.standing =
        (if connection.standing.FirstFailure then connection.standing.lost moment.wall
          else connection.standing) ∧
      (connection.fail failure moment).2.filterMap Effect.paint? =
        if connection.standing.FirstFailure then [.indicator (.disconnectedSince moment.wall)]
        else [] := by
    by_cases live : connection.standing.connected = true
    · simp only [fail, disconnect, Standing.FirstFailure, live, true_or, if_true]
      exact ⟨trivial, rfl⟩
    · by_cases first : connection.standing.disconnectedSince = none
      · simp only [fail, Standing.FirstFailure, live, first, or_true, if_true]
        exact ⟨rfl, rfl⟩
      · simp [fail, Standing.FirstFailure, live, first, Effect.paint?]
  refine ⟨shown.1, ?_, ?_, ?_, ?_, shown.2⟩ <;> rw [equal]
  rfl

variable {paints : List Paint}

/-- What a failure does depends on the standing and the plans alone. -/
theorem Fails.of_alike {failing : Connection} (fails : Fails failing moment after paints)
    (standing : failing.standing = before.standing)
    (planned : failing.retryAt? = before.retryAt?) (timeout : failing.timeout = before.timeout)
    (history : failing.history = before.history) : Fails before moment after paints := by
  obtain ⟨stands, unwanted, unwatched, plans, keeps, shown⟩ := fails
  rw [standing] at stands plans shown
  rw [planned, timeout] at plans
  exact ⟨stands, unwanted, unwatched, plans, keeps.trans history, shown⟩

theorem Fails.lost (fails : Fails before moment after paints) :
    after.standing.connected = false := by
  rw [fails.standing]
  split
  · rfl
  · next again => simpa using fun live => again (.inl live)

/-! ### What breaks a request -/

/-- Whether octets, if only none, are reported on a request after one more event. A new
request starts afresh. -/
def hear (generation : Nat) (heard : Bool) : Event → Bool
  | .connect => false
  | .progress other _ => if other = generation then true else heard
  | _ => heard

/-- Whether octets were reported under a request's number since a request was last opened. -/
def heard (generation : Nat) (events : List (Event × Moment)) : Bool :=
  events.foldl (fun heard event => hear generation heard event.1) false

theorem heard_concat (generation : Nat) (events : List (Event × Moment))
    (event : Event × Moment) :
    heard generation (events ++ [event]) = hear generation (heard generation events) event.1 := by
  rw [heard, List.foldl_append]
  rfl

theorem Shift.hears (shift : Shift before moment event after) (named : before.Named)
    (sofar : Nat → Bool)
    (same : before.inFlight = true → before.received = sofar before.generation)
    (wanted : after.inFlight = true) :
    after.received = hear after.generation (sofar after.generation) event := by
  cases shift with
  | idle _ futile =>
    cases event with
    | connect =>
      rw [Futile, named wanted] at futile
      cases futile
    | progress generation chunk =>
      have other : generation ≠ before.generation := by
        simpa [Futile, isCurrent, wanted] using futile
      simpa only [hear, if_neg other] using same wanted
    | _ => exact same wanted
  | tracked => exact same wanted
  | opened => rfl
  | heard generation chunk current =>
    obtain ⟨_, rfl⟩ := (before.isCurrent_iff generation).mp current
    simp only [hear, receive, if_true]
  | took generation chunk current =>
    obtain ⟨_, rfl⟩ := (before.isCurrent_iff generation).mp current
    simp only [hear, receive, if_true]
  | failed => cases wanted
  | ended => cases wanted
  | disconnected => cases wanted
  | expired unwanted => rw [unwanted] at wanted; cases wanted
  | stopped => cases wanted

/-- A connection knows whether anything was reported on the request it wants. -/
theorem received_run (timeout : Nat) (events : List (Event × Moment))
    (wanted : ((new timeout).run events).inFlight = true) :
    ((new timeout).run events).received =
      heard ((new timeout).run events).generation events := by
  induction events using List.reverseRecOn with
  | nil => cases wanted
  | append_singleton events event inductionHypothesis =>
    have named := run_named (new_named timeout) events
    rw [run_append] at wanted ⊢
    rw [heard_concat]
    exact (shift_step event.2 event.1 named).hears named
      (fun generation => heard generation events) inductionHypothesis wanted

/-- After some events, one more breaks the request that is wanted. -/
inductive Breaks (timeout : Nat) (events : List (Event × Moment)) (moment : Moment) :
    Event → Prop where
  /-- It is reported broken. -/
  | reported (generation : Nat) (error : RequestError)
      (current : ((new timeout).run events).isCurrent generation = true) :
      Breaks timeout events moment (.requestError generation error)
  /-- What was delivered on it will never be a snapshot. -/
  | garbled (generation : Nat) (chunk : Bytes)
      (current : ((new timeout).run events).isCurrent generation = true) (error : DecodeError)
      (hopeless : error.isIncomplete = false)
      (read : Stream.decodeLatest (delivered generation events ++ chunk) = .error error) :
      Breaks timeout events moment (.progress generation chunk)
  /-- It ends and nothing was ever reported on it. -/
  | unheard (generation : Nat)
      (current : ((new timeout).run events).isCurrent generation = true)
      (silent : heard generation events = false) :
      Breaks timeout events moment (.complete generation)
  /-- Its deadline is reached. -/
  | stalled (wanted : ((new timeout).run events).inFlight = true) (deadline : Nat)
      (armed : ((new timeout).run events).watchdog.deadline = some deadline)
      (reached : deadline ≤ moment.now) :
      Breaks timeout events moment .watchdogDue

variable {timeout : Nat} {events : List (Event × Moment)}

theorem Breaks.wanted (breaks : Breaks timeout events moment event) :
    ((new timeout).run events).inFlight = true := by
  cases breaks with
  | reported generation _ current => exact ((isCurrent_iff _ generation).mp current).1
  | garbled generation _ current => exact ((isCurrent_iff _ generation).mp current).1
  | unheard generation current => exact ((isCurrent_iff _ generation).mp current).1
  | stalled wanted => exact wanted

/-- However a request breaks, it fails in the same way. -/
theorem Breaks.fails (breaks : Breaks timeout events moment event) :
    Fails ((new timeout).run events) moment
      (((new timeout).run events).step event moment).connection
      (((new timeout).run events).step event moment).paints := by
  cases breaks with
  | reported generation error current =>
    simp only [step, requestError, if_pos current]
    exact fails_fail _ _ moment
  | garbled generation chunk current error hopeless read =>
    obtain ⟨wanted, rfl⟩ := (isCurrent_iff _ generation).mp current
    -- What is kept of the octets fails to decode for the same reason as all of them.
    have near := ((run_kept timeout events wanted).append chunk).failed read
    simp only [step, progress_failed moment current hopeless near]
    exact (fails_fail (receive _ chunk moment) (.decode error) moment).of_alike rfl rfl rfl rfl
  | unheard generation current silent =>
    obtain ⟨wanted, rfl⟩ := (isCurrent_iff _ generation).mp current
    have nothing := (received_run timeout events wanted).trans silent
    simp only [step, complete, if_pos current, nothing]
    exact fails_fail _ _ moment
  | stalled wanted deadline armed reached =>
    have due : ((new timeout).run events).watchdog.isDue moment.now = true := by
      simp [Watchdog.isDue, armed, reached]
    simp only [step, watchdogDue_wanted _ moment due wanted]
    exact (fails_fail _ _ moment).of_alike rfl rfl rfl rfl

/-- No attempt was planned beside the request, so the next one is one timeout ahead. -/
theorem Breaks.planned (breaks : Breaks timeout events moment event) :
    (((new timeout).run events).step event moment).connection.retryAt? =
      some (moment.now + timeout) := by
  rw [breaks.fails.planned, (run_steady timeout events).alone breaks.wanted, timeout_run]
  split <;> rfl

/-! ### Rest -/

/-- No request is wanted, the watchdog is off and the server counts as lost. -/
structure Resting (connection : Connection) : Prop where
  named : connection.history.isInitialized = true
  unwanted : connection.inFlight = false
  unwatched : connection.watchdog.deadline = none
  lost : connection.standing.connected = false

/-- Only an attempt or a shutdown can do anything at rest. -/
theorem Resting.futile (resting : connection.Resting)
    (waits : event ≠ .connect ∧ event ≠ .shutdown) : connection.Futile moment event := by
  have stale (generation : Nat) : connection.isCurrent generation = false := by
    simp [isCurrent, resting.unwanted]
  cases event with
  | track => exact resting.named
  | connect => exact absurd rfl waits.1
  | progress generation => exact stale generation
  | requestError generation => exact stale generation
  | complete generation => exact stale generation
  | watchdogDue => simp [Futile, Watchdog.isDue, resting.unwatched]
  | disconnect => exact resting.lost
  | shutdown => exact absurd rfl waits.2

theorem Resting.run (resting : connection.Resting) {later : List (Event × Moment)}
    (waits : ∀ event ∈ later, event.1 ≠ .connect ∧ event.1 ≠ .shutdown) :
    connection.run later = connection ∧ connection.painted later = [] := by
  induction later with
  | nil => exact ⟨rfl, rfl⟩
  | cons event rest inductionHypothesis =>
    have futile : connection.Futile event.2 event.1 :=
      resting.futile (waits event List.mem_cons_self)
    obtain ⟨unchanged, unshown⟩ := step_futile futile
    obtain ⟨ran, shown⟩ :=
      inductionHypothesis fun later member => waits later (List.mem_cons_of_mem _ member)
    refine ⟨by rw [run_cons, unchanged, ran], ?_⟩
    rw [painted, gather, unchanged, unshown, List.nil_append]
    exact shown

/-- A request that breaks leaves the server counted as lost, no request wanted, the watchdog
off and one attempt planned, one timeout ahead; at most a banner is shown. From then on, up
to the next attempt or the shutdown, no event in whatever order and at whatever time changes
anything at all or shows anything. -/
theorem failure_leaves_one_attempt (timeout : Nat) (events : List (Event × Moment))
    (event : Event) (moment : Moment) (breaks : Breaks timeout events moment event) :
    let outcome := ((new timeout).run events).step event moment
    outcome.connection.standing.connected = false ∧
      (∀ generation, outcome.connection.isCurrent generation = false) ∧
      outcome.connection.watchdog.isArmed = false ∧
      outcome.connection.retryAt? = some (moment.now + timeout) ∧
      (∀ paint ∈ outcome.paints, paint.IsBanner) ∧
      ∀ later : List (Event × Moment),
        (∀ event ∈ later, event.1 ≠ .connect ∧ event.1 ≠ .shutdown) →
          outcome.connection.run later = outcome.connection ∧
            outcome.connection.painted later = [] := by
  intro outcome
  have fails : Fails _ moment outcome.connection outcome.paints := breaks.fails
  have named := run_named (new_named timeout) events breaks.wanted
  have resting : outcome.connection.Resting :=
    ⟨by rw [fails.history, named], fails.unwanted, fails.unwatched, fails.lost⟩
  refine ⟨fails.lost, ?_, ?_, ?_, ?_, fun later waits => resting.run waits⟩
  · intro generation
    rw [isCurrent, fails.unwanted, Bool.false_and]
  · rw [Watchdog.isArmed, fails.unwatched, Option.isSome_none]
  · rw [fails.planned, (run_steady timeout events).alone breaks.wanted, timeout_run]
    split <;> rfl
  · rw [fails.paints]
    split
    · exact List.forall_mem_singleton.mpr ⟨_, rfl⟩
    · exact List.forall_mem_nil _

/-- A live connection that stalls. Its end, octets on it, another deadline and a second
naming of the entities come late and are ignored. -/
theorem failure_leaves_one_attempt_stalled :
    let events : List (Event × Moment) := [(.track ["pump"], ⟨0, 0⟩), (.connect, ⟨0, 0⟩),
      (.progress 1 (Utf8.encode "\x7b\"timestamp\":1,\"pump\":\"on\"\x7d"), ⟨20, 3⟩)]
    let later : List (Event × Moment) := [(.complete 1, ⟨125, 4⟩), (.progress 1 [0x61], ⟨130, 4⟩),
      (.watchdogDue, ⟨300, 5⟩), (.disconnect, ⟨310, 5⟩), (.track ["valve"], ⟨320, 5⟩)]
    let outcome := ((new 100).run events).step .watchdogDue ⟨120, 4⟩
    Breaks 100 events ⟨120, 4⟩ .watchdogDue ∧
      outcome.connection.retryAt? = some 220 ∧
      outcome.connection.run later = outcome.connection ∧
      outcome.connection.painted later = [] := by
  intro events later outcome
  have breaks : Breaks 100 events ⟨120, 4⟩ .watchdogDue := .stalled rfl 120 rfl (by decide)
  obtain ⟨_, _, _, planned, _, absorbed⟩ := failure_leaves_one_attempt 100 events _ _ breaks
  exact ⟨breaks, planned, absorbed later (by simp [later])⟩

end Connection

end TreeWatch
