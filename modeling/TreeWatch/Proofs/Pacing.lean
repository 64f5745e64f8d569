/-
This file proves that a client never spins. Between two instants it takes no more turns than the
deliveries in between and the milliseconds allow: a delivery is used up, a watchdog that goes off
on a wanted request has let a whole timeout pass, and whatever else wakes the client is a leftover
of one of these (`Plays.budget_lt`). So the bound on the turns of a script is never reached, and
every script is played to its end (`play_to_end`).
-/

import TreeWatch.Proofs.Playback

namespace TreeWatch

/-! ### What is left to do -/

namespace Connection

/-- How much can wake a client besides its request: an attempt, and a watchdog that nobody
needs any more. -/
def loose (connection : Connection) : Nat :=
  connection.retryAt?.isSome.toNat +
    (!connection.inFlight && connection.watchdog.isArmed).toNat

theorem loose_le (connection : Connection) : connection.loose ≤ 2 :=
  Nat.add_le_add (Bool.toNat_le _) (Bool.toNat_le _)

/-- A wanted request has just given a sign of life. -/
structure Fresh (connection : Connection) (now : Nat) : Prop where
  patient : 0 < connection.timeout
  deadline : connection.inFlight = true →
    connection.watchdog.deadline = some (now + connection.timeout)

end Connection

namespace Client.Sound

variable {client : Client} {moment : Moment} {now : Nat} {result : Client × List Action}

/-- Octets that arrive are a sign of life, and whatever else arrives ends the request. -/
theorem fresh_arrival (sound : client.Sound) (fresh : client.connection.Fresh now)
    (wanted : client.connection.inFlight = true) {arrival : Arrival}
    (done : client.turn (.arrival arrival) moment = .ok result) :
    result.1.connection.Fresh moment.now := by
  have request := sound.inStep
  rw [if_pos wanted] at request
  have current := sound.isCurrent request
  have shift := Connection.shift_step moment
    (arrival.event client.connection.generation) fun _ => sound.named
  rw [← sound.turn_connection moment done (by rw [event?, request]; rfl)] at shift
  generalize result.1.connection = after at shift
  refine ⟨shift.timeout.symm ▸ fresh.patient, fun still => ?_⟩
  cases arrival with
  | chunk bytes =>
    cases shift with
    | idle _ futile => exact absurd (current.symm.trans futile) (by simp)
    | heard => rfl
    | took => rfl
    | failed => cases still
  | failed | ended =>
    rw [shift.final current trivial] at still
    cases still

/-- A watchdog that goes off gives up the request that is wanted. If none is, it leaves one thing
less to wake the client. -/
theorem fresh_watchdog (sound : client.Sound) (fresh : client.connection.Fresh now) {due : Nat}
    (deadline : client.connection.watchdog.deadline = some due) (reached : due ≤ moment.now)
    (done : client.turn .watchdog moment = .ok result) :
    result.1.connection.Fresh moment.now ∧ (client.connection.inFlight = false →
      result.1.connection.loose + 1 = client.connection.loose) := by
  have goesOff : client.connection.watchdog.isDue moment.now = true := by
    simp [Watchdog.isDue, deadline, reached]
  have shift := Connection.shift_step moment .watchdogDue fun _ => sound.named
  rw [← sound.turn_connection moment done rfl] at shift
  generalize result.1.connection = after at shift ⊢
  cases shift with
  | idle _ futile => exact absurd (goesOff.symm.trans futile) (by simp)
  | failed _ wanted =>
    exact ⟨⟨fresh.patient, nofun⟩, fun unwanted => absurd (wanted.symm.trans unwanted) (by simp)⟩
  | expired unwanted =>
    refine ⟨⟨fresh.patient, fun wanted => absurd (wanted.symm.trans unwanted) (by simp)⟩,
      fun _ => ?_⟩
    simp only [Connection.loose, Watchdog.isArmed, unwanted, deadline]
    rfl

end Client.Sound

/-- An attempt is a sign of life of the new request, and leaves nothing else to wake the client. -/
theorem Client.fresh_retry {client : Client} {moment : Moment} {result : Client × List Action}
    (named : client.connection.history.isInitialized = true)
    (patient : 0 < client.connection.timeout) (done : client.turn .retry moment = .ok result) :
    result.1.connection.Fresh moment.now ∧ result.1.connection.loose = 0 := by
  rw [turn_retry moment named] at done
  cases done
  simp only [Connection.step, Connection.connect, if_pos named]
  exact ⟨⟨patient, fun _ => rfl⟩, rfl⟩

namespace Timeline

/-- How much is left to be delivered. -/
def left (timeline : Timeline) : Nat :=
  timeline.playing.elim 0 (fun playing => playing.script.arrivals.length) +
    (timeline.scripts.flatMap Script.arrivals).length

theorem left_carryOut_le (timeline : Timeline) (action : Action) :
    (timeline.carryOut action).left ≤ timeline.left := by
  cases action with
  | effect => exact le_rfl
  | openRequest =>
    obtain ⟨client, now, playing, scripts, opens, effects⟩ := timeline
    cases scripts with
    | nil => exact Nat.zero_le _
    | cons script scripts =>
      refine le_trans (le_of_eq ?_) (Nat.le_add_left ..)
      rw [List.flatMap_cons, List.length_append]
      rfl

theorem left_foldl_le (timeline : Timeline) (actions : List Action) :
    (actions.foldl carryOut timeline).left ≤ timeline.left := by
  induction actions generalizing timeline with
  | nil => exact le_rfl
  | cons action actions inductionHypothesis =>
    exact (inductionHypothesis (timeline.carryOut action)).trans (timeline.left_carryOut_le action)

/-- A turn adds nothing to what is left. -/
theorem left_follow_le (timeline : Timeline) (result : Client × List Action) :
    (timeline.follow result).left ≤ timeline.left := by
  have whole := left_foldl_le { timeline with client := result.1 } result.2
  simp only [follow]
  split
  · refine le_trans ?_ whole
    exact Nat.add_le_add_right (Nat.zero_le _) _
  · exact whole

/-- A bound on the turns before an instant. -/
def budget (stopAt : Nat) (timeline : Timeline) : Nat :=
  3 * (timeline.left + (stopAt - timeline.now)) + timeline.client.connection.loose

end Timeline

/-- Every turn brings a timeline nearer to an instant. A delivery is one less, a watchdog that
goes off on a wanted request has let a timeout pass, and every other turn leaves less behind
than it found. -/
theorem Plays.budget_lt {transport : Transport} {connection : Connection} {timeline : Timeline}
    {session : Session} (plays : Plays transport timeline session)
    (sound : session.Sound connection)
    (fresh : timeline.client.connection.Fresh timeline.now) {stopAt : Nat} {alarm : Alarm}
    (ready : timeline.alarm? = some alarm) (early : max timeline.now alarm.due < stopAt)
    {result : Client × List Action}
    (done : timeline.client.turn alarm.cause (timeline.wake alarm).moment = .ok result) :
    result.1.connection.Fresh (max timeline.now alarm.due) ∧
      ((timeline.wake alarm).follow result).budget stopAt < timeline.budget stopAt := by
  have client : timeline.client.Sound := plays.client ▸ sound.client
  have fewer := (timeline.wake alarm).left_follow_le result
  have few := result.1.connection.loose_le
  have later : timeline.now ≤ max timeline.now alarm.due := le_max_left ..
  have reached : alarm.due ≤ max timeline.now alarm.due := le_max_right ..
  simp only [Timeline.budget, Timeline.follow_now, Timeline.follow_client]
  rw [show (timeline.wake alarm).now = max timeline.now alarm.due from rfl]
  cases Timeline.rings ready with
  | arrival playing arrival rest held gives cause after =>
    have used : (timeline.wake alarm).left + 1 = timeline.left := by
      simp only [Timeline.left, Timeline.wake, after, held, Option.elim_some, gives,
        List.length_cons]
      exact Nat.add_right_comm ..
    have wanted : timeline.client.connection.inFlight = true := by
      rw [plays.client, ← sound.held, ← plays.serves.isSome_eq, held]
      rfl
    rw [cause] at done
    exact ⟨client.fresh_arrival fresh wanted done, by omega⟩
  | watchdog armed cause after =>
    have same : (timeline.wake alarm).left = timeline.left := by
      rw [Timeline.left, Timeline.left, Timeline.wake, after]
    rw [cause] at done
    obtain ⟨next, less⟩ := client.fresh_watchdog fresh armed reached done
    refine ⟨next, ?_⟩
    cases wanted : timeline.client.connection.inFlight with
    | false =>
      have loose := less wanted
      omega
    | true =>
      have patient := fresh.patient
      have waited : alarm.due = timeline.now + timeline.client.connection.timeout :=
        Option.some.inj (armed.symm.trans (fresh.deadline wanted))
      omega
  | retry planned cause after =>
    have same : (timeline.wake alarm).left = timeline.left := by
      rw [Timeline.left, Timeline.left, Timeline.wake, after]
    rw [cause] at done
    obtain ⟨next, tidy⟩ := Client.fresh_retry client.named fresh.patient done
    have waits : 1 ≤ timeline.client.connection.loose := by
      simp [Connection.loose, planned]
    exact ⟨next, by omega⟩

/-- A timeline beside a session comes to any instant, and any number of turns beyond its budget
is enough. -/
theorem Plays.ends {transport : Transport} {connection : Connection} {timeline : Timeline}
    {session : Session} (plays : Plays transport timeline session)
    (reached : session.Reached transport connection)
    (fresh : timeline.client.connection.Fresh timeline.now) (stopAt : Nat) :
    ∃ after, after.now = stopAt ∧
      ∀ fuel, timeline.budget stopAt < fuel → timeline.runUntil stopAt fuel = .ok after := by
  induction work : timeline.budget stopAt using Nat.strongRecOn generalizing timeline session with
  | ind _ inductionHypothesis =>
    subst work
    have started {fuel : Nat} (enough : timeline.budget stopAt < fuel) :
        ∃ more, fuel = more + 1 := Nat.exists_eq_succ_of_ne_zero (Nat.ne_zero_of_lt enough)
    cases ready : timeline.alarm? with
    | none =>
      refine ⟨{ timeline with now := stopAt }, rfl, fun fuel enough => ?_⟩
      obtain ⟨fuel, rfl⟩ := started enough
      simp only [Timeline.runUntil, ready]
    | some alarm =>
      by_cases early : max timeline.now alarm.due < stopAt
      · obtain ⟨wakeup, woken, next, result, wakes, taken, turned, beside⟩ :=
          plays.turn reached.sound ready
        obtain ⟨alive, less⟩ := plays.budget_lt reached.sound fresh ready early turned
        obtain ⟨after, ends, runs⟩ := inductionHypothesis _ less beside (reached.turn wakes taken)
          (by rwa [Timeline.follow_client, Timeline.follow_now]) rfl
        refine ⟨after, ends, fun fuel enough => ?_⟩
        obtain ⟨fuel, rfl⟩ := started enough
        simp only [Timeline.runUntil, ready, if_pos early, turned]
        exact runs fuel (by omega)
      · refine ⟨{ timeline with now := stopAt }, rfl, fun fuel enough => ?_⟩
        obtain ⟨fuel, rfl⟩ := started enough
        simp only [Timeline.runUntil, ready, if_neg early]

/-- Scripts deliver no more than their deliveries and an end each. -/
theorem length_arrivals_le (scripts : List Script) :
    (scripts.flatMap Script.arrivals).length ≤
      (scripts.flatMap (·.deliveries)).length + scripts.length := by
  induction scripts with
  | nil => exact le_rfl
  | cons script scripts inductionHypothesis =>
    have ends : script.arrivals.length ≤ script.deliveries.length + 1 := by
      rw [Script.arrivals, List.length_append, List.length_map]
      exact Nat.add_le_add_left Option.length_toList_le _
    simp only [List.flatMap_cons, List.length_append, List.length_cons]
    omega

/-- A client that waits at least a millisecond plays any scripts to the end: the turns it may take
are enough, and with more of them it would come to the same. -/
theorem Timeline.play_to_end {connection : Connection}
    (ready : connection.history.isInitialized = true) (patient : 0 < connection.timeout)
    (scripts : List Script) (stopAt : Nat) :
    ∃ opening after, Client.start connection ⟨0, 0⟩ = .ok opening ∧ after.now = stopAt ∧
      (∀ fuel, turnBound scripts stopAt ≤ fuel →
        runUntil stopAt fuel (follow { client := opening.1, scripts } opening) = .ok after) ∧
      play connection scripts stopAt =
        .ok (after.client.stop.2.foldl carryOut after, after.client.stop.1) := by
  obtain ⟨opening, session, opened, started, beside⟩ := plays_start ready scripts
  obtain ⟨fresh, tidy⟩ :=
    @Client.fresh_retry { connection } ⟨0, 0⟩ opening ready patient opened
  obtain ⟨after, ends, runs⟩ := beside.ends (.start started)
    (by rwa [follow_client, follow_now]) stopAt
  have left : (follow { client := opening.1, scripts } opening).left ≤
      (scripts.flatMap (·.deliveries)).length + scripts.length :=
    calc
      _ ≤ left { client := opening.1, scripts } := left_follow_le ..
      _ = (scripts.flatMap Script.arrivals).length := Nat.zero_add _
      _ ≤ _ := length_arrivals_le scripts
  have enough : (follow { client := opening.1, scripts } opening).budget stopAt <
      turnBound scripts stopAt := by
    rw [budget, follow_client, follow_now, tidy, turnBound]
    omega
  refine ⟨opening, after, opened, ends, fun fuel more => runs fuel (enough.trans_le more), ?_⟩
  rw [play, opened]
  simp only [bind, Except.bind, runs _ enough]
  rfl

end TreeWatch
