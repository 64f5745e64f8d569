/-
This file proves that playing scripts is running a client against the server they describe
(`play_eq_runUntil`). A timeline and a session go side by side: they have the same client, what
the timeline's request still delivers is what the session's stream still gives, and the scripts
that are left are the streams not opened yet (`Plays`). What is due next on the timeline can
wake the session and is the same turn there, so what is proved of any order of wakeups holds on
the clock.
-/

import TreeWatch.Client.Timeline
import TreeWatch.Proofs.Lifetime

namespace TreeWatch

/-! ### The server that scripts describe -/

/-- All that a script delivers. -/
def Script.arrivals (script : Script) : List Arrival :=
  script.deliveries.map (·.arrival) ++ (script.endsAfter.map fun _ => Arrival.ended).toList

/-- Every stream follows its own script. Beyond the scripts streams stay silent. -/
def scripted (scripts : List Script) : Transport := fun number given =>
  (scripts.getD number {}).arrivals[given]?

theorem scripted_zero (scripts : List Script) (given : Nat) :
    scripted scripts 0 given = (scripts.headD {}).arrivals[given]? := by
  cases scripts <;> rfl

theorem scripted_tail (scripts : List Script) (number : Nat) :
    scripted scripts.tail number = scripted scripts (number + 1) := by
  cases scripts <;> rfl

/-- A delivery that is due is the first of what is left. -/
theorem Playing.arrivals_eq_cons {playing : Playing} {due : Nat} (ready : playing.due? = some due)
    (now : Nat) : playing.script.arrivals =
      (playing.next now).1 :: (playing.next now).2.script.arrivals := by
  obtain ⟨⟨deliveries, endsAfter⟩, since⟩ := playing
  cases deliveries with
  | cons delivery rest => rfl
  | nil =>
    cases endsAfter with
    | none => cases ready
    | some wait => rfl

/-- What is due sooner is one of the two. -/
theorem Alarm.sooner_eq_some {now : Nat} {first? other? : Option Alarm} {alarm : Alarm}
    (ready : sooner now first? other? = some alarm) :
    first? = some alarm ∨ other? = some alarm := by
  cases first? with
  | none => exact .inr ready
  | some first =>
    cases other? with
    | none => exact .inl ready
    | some other =>
      simp only [sooner] at ready
      split at ready
      · exact .inr ready
      · exact .inl ready

/-- What an alarm can be: a delivery of the open request, the watchdog or an attempt. -/
inductive Timeline.Rings (timeline : Timeline) (alarm : Alarm) : Prop where
  | arrival (playing : Playing) (arrival : Arrival) (rest : Playing)
      (held : timeline.playing = some playing)
      (gives : playing.script.arrivals = arrival :: rest.script.arrivals)
      (cause : alarm.cause = .arrival arrival) (after : alarm.playing = some rest)
  | watchdog (armed : timeline.client.connection.watchdog.deadline = some alarm.due)
      (cause : alarm.cause = .watchdog) (after : alarm.playing = timeline.playing)
  | retry (planned : timeline.client.connection.retryAt? = some alarm.due)
      (cause : alarm.cause = .retry) (after : alarm.playing = timeline.playing)

theorem Timeline.rings {timeline : Timeline} {alarm : Alarm}
    (ready : timeline.alarm? = some alarm) : timeline.Rings alarm := by
  rcases Alarm.sooner_eq_some ready with ready | planned
  · rcases Alarm.sooner_eq_some ready with arrives | armed
    · obtain ⟨playing, held, ready⟩ := Option.bind_eq_some_iff.mp arrives
      obtain ⟨due, reached, equal⟩ := Option.bind_eq_some_iff.mp ready
      cases equal
      exact .arrival playing _ _ held (Playing.arrivals_eq_cons reached _) rfl rfl
    · obtain ⟨due, deadline, equal⟩ := Option.map_eq_some_iff.mp armed
      cases equal
      exact .watchdog deadline rfl rfl
  · obtain ⟨due, waits, equal⟩ := Option.map_eq_some_iff.mp planned
    cases equal
    exact .retry waits rfl rfl

/-- What a request still delivers is what a stream still gives, and there is either both or
neither. -/
inductive Serves (transport : Transport) : Option Playing → Option Channel → Prop where
  | idle : Serves transport none none
  | busy {playing : Playing} {channel : Channel}
      (left : ∀ count, transport channel.number (channel.given + count) =
        playing.script.arrivals[count]?) : Serves transport (some playing) (some channel)

theorem Serves.isSome_eq {transport : Transport} {playing? : Option Playing}
    {channel? : Option Channel} (serves : Serves transport playing? channel?) :
    playing?.isSome = channel?.isSome := by
  cases serves <;> rfl

/-- A timeline and a session have come to the same point. -/
structure Plays (transport : Transport) (timeline : Timeline) (session : Session) : Prop where
  client : timeline.client = session.client
  opens : timeline.opens.length = session.opens
  serves : Serves transport timeline.playing session.channel
  ahead : ∀ number, transport (session.opens + number) = scripted timeline.scripts number

/-! ### Side by side -/

namespace Plays

variable {transport : Transport} {timeline : Timeline} {session : Session}

theorem carryOut (plays : Plays transport timeline session) (action : Action) :
    Plays transport (timeline.carryOut action) (session.carryOut action) := by
  cases action with
  | effect => exact ⟨plays.client, plays.opens, plays.serves, plays.ahead⟩
  | openRequest =>
    have counted : (session.carryOut .openRequest).opens = session.opens + 1 := by
      show List.countP _ (_ ++ _) = _
      rw [List.countP_append]
      exact congrArg (· + 1) session.opens_drop
    refine ⟨plays.client.trans session.drop_client.symm, ?_, .busy fun count => ?_,
      fun number => ?_⟩
    · rw [counted]
      exact congrArg (· + 1) plays.opens
    · rw [Nat.zero_add, ← scripted_zero]
      exact congrFun (plays.ahead 0) count
    · rw [counted, Nat.add_assoc, Nat.add_comm 1]
      exact (plays.ahead (number + 1)).trans (scripted_tail timeline.scripts number).symm

theorem foldl_carryOut (plays : Plays transport timeline session) (actions : List Action) :
    Plays transport (actions.foldl Timeline.carryOut timeline)
      (actions.foldl Session.carryOut session) := by
  induction actions generalizing timeline session with
  | nil => exact plays
  | cons action actions inductionHypothesis => exact inductionHypothesis (plays.carryOut action)

theorem follow (plays : Plays transport timeline session) (result : Client × List Action) :
    Plays transport (timeline.follow result) (session.follow result) := by
  have begins : Plays transport { timeline with client := result.1 }
      { session with client := result.1 } := ⟨rfl, plays.opens, plays.serves, plays.ahead⟩
  have next := begins.foldl_carryOut result.2
  simp only [Timeline.follow, Session.follow]
  generalize result.2.foldl Timeline.carryOut _ = moved at next ⊢
  generalize result.2.foldl Session.carryOut _ = settled at next ⊢
  rw [show moved.client.request = settled.client.request from congrArg _ next.client]
  split
  · refine ⟨next.client.trans (Session.drop_client _).symm, ?_, ?_, fun number => ?_⟩
    · exact next.opens.trans (Session.opens_drop _).symm
    · rw [Session.drop_channel]
      exact .idle
    · rw [Session.opens_drop]
      exact next.ahead number
  · exact next

/-- What is due next on the timeline can wake the session, for the same turn. -/
theorem wake (plays : Plays transport timeline session) {alarm : Alarm}
    (ready : timeline.alarm? = some alarm) :
    ∃ wakeup woken, session.wake? transport wakeup = some (alarm.cause, woken) ∧
      Plays transport (timeline.wake alarm) woken := by
  have serves := plays.serves
  cases Timeline.rings ready with
  | arrival playing arrival rest held gives cause after =>
    rw [held] at serves
    generalize wired : session.channel = wire at serves
    cases serves with
    | @busy _ channel left =>
      have first : transport channel.number channel.given = some arrival := by
        rw [← Nat.add_zero channel.given, left, gives]
        rfl
      refine ⟨.stream, session.poll channel arrival, ?_, plays.client, ?_, ?_, fun number => ?_⟩
      · rw [Session.wake?, wired, Option.bind_some, first, cause]
        rfl
      · exact plays.opens.trans (Session.opens_poll ..).symm
      · show Serves transport alarm.playing _
        rw [after]
        refine .busy fun count => ?_
        rw [Nat.add_assoc, Nat.add_comm 1, left, gives]
        rfl
      · rw [Session.opens_poll]
        exact plays.ahead number
  | watchdog armed cause after =>
    refine ⟨.watchdog, session, ?_, plays.client, plays.opens, ?_, plays.ahead⟩
    · rw [cause]
      exact if_pos (by rw [← plays.client, Watchdog.isArmed, armed]; rfl)
    · exact (congrArg (Serves transport · session.channel) after).mpr serves
  | retry planned cause after =>
    refine ⟨.retry, session, ?_, plays.client, plays.opens, ?_, plays.ahead⟩
    · rw [cause]
      exact if_pos (by rw [← plays.client, planned]; rfl)
    · exact (congrArg (Serves transport · session.channel) after).mpr serves

/-- A turn that the session takes, the timeline takes too. -/
theorem take (plays : Plays transport timeline session) {cause : Turn} {moment : Moment}
    {after : Session} (done : session.take cause moment = .ok after) :
    ∃ result, timeline.client.turn cause moment = .ok result ∧
      Plays transport (timeline.follow result) after := by
  rw [Session.take, ← plays.client] at done
  cases taken : timeline.client.turn cause moment with
  | error => rw [taken] at done; cases done
  | ok result =>
    rw [taken] at done
    cases done
    refine ⟨result, rfl, follow ?_ result⟩
    exact ⟨rfl, plays.opens, plays.serves, plays.ahead⟩

/-- Whatever is due next on the timeline, the session can be woken by the same, both take the
turn, and they come to the same point again. -/
theorem turn (plays : Plays transport timeline session) {connection : Connection}
    (sound : session.Sound connection) {alarm : Alarm} (ready : timeline.alarm? = some alarm) :
    ∃ wakeup woken after result, session.wake? transport wakeup = some (alarm.cause, woken) ∧
      woken.take alarm.cause (timeline.wake alarm).moment = .ok after ∧
      (timeline.wake alarm).client.turn alarm.cause (timeline.wake alarm).moment = .ok result ∧
      Plays transport ((timeline.wake alarm).follow result) after := by
  obtain ⟨wakeup, woken, wakes, beside⟩ := plays.wake ready
  obtain ⟨after, taken, _⟩ := sound.turn wakes (timeline.wake alarm).moment
  obtain ⟨result, turned, beside⟩ := beside.take taken
  exact ⟨wakeup, woken, after, result, wakes, taken, turned, beside⟩

end Plays

/-! ### The run -/

namespace Timeline

/-- Actions leave the client and the clock alone. -/
theorem foldl_carryOut_frame (timeline : Timeline) (actions : List Action) :
    (actions.foldl carryOut timeline).client = timeline.client ∧
      (actions.foldl carryOut timeline).now = timeline.now := by
  induction actions generalizing timeline with
  | nil => exact ⟨rfl, rfl⟩
  | cons action actions inductionHypothesis =>
    rw [List.foldl_cons, (inductionHypothesis _).1, (inductionHypothesis _).2]
    cases action <;> exact ⟨rfl, rfl⟩

@[simp] theorem follow_client (timeline : Timeline) (result : Client × List Action) :
    (timeline.follow result).client = result.1 := by
  simp only [follow]
  split <;> exact (foldl_carryOut_frame ..).1

@[simp] theorem follow_now (timeline : Timeline) (result : Client × List Action) :
    (timeline.follow result).now = timeline.now := by
  simp only [follow]
  split <;> exact (foldl_carryOut_frame ..).2

end Timeline

/-- Wakeups in the order of a clock, none of them before one instant and all before
another. -/
structure InOrder (now stopAt : Nat) (wakeups : List (Wakeup × Moment)) : Prop where
  sorted : (now :: wakeups.map (·.2.now)).Pairwise (· ≤ ·)
  early : ∀ wakeup ∈ wakeups, wakeup.2.now < stopAt

theorem InOrder.cons {now later stopAt : Nat} {wakeups : List (Wakeup × Moment)}
    (inOrder : InOrder later stopAt wakeups) (after : now ≤ later) (early : later < stopAt)
    (wakeup : Wakeup) (wall : Int) :
    InOrder now stopAt ((wakeup, { now := later, wall }) :: wakeups) := by
  refine ⟨List.pairwise_cons.mpr ⟨?_, inOrder.sorted⟩,
    List.forall_mem_cons.mpr ⟨early, inOrder.early⟩⟩
  intro instant member
  rcases List.mem_cons.mp member with rfl | member
  · exact after
  · exact after.trans ((List.pairwise_cons.mp inOrder.sorted).1 instant member)

/-- A timeline runs as the session beside it does, woken in the order of the clock. No turn
fails. -/
theorem Plays.runUntil {transport : Transport} {connection : Connection} {timeline : Timeline}
    {session : Session} (plays : Plays transport timeline session)
    (reached : session.Reached transport connection) (stopAt fuel : Nat) :
    ∃ wakeups after last, timeline.runUntil stopAt fuel = .ok after ∧
      InOrder timeline.now stopAt wakeups ∧ Plays transport after last ∧
      last.Reached transport connection ∧
      session.finish transport wakeups = last.finish transport [] := by
  induction fuel generalizing timeline session with
  | zero => exact ⟨[], timeline, session, rfl, ⟨by simp, nofun⟩, plays, reached, rfl⟩
  | succ fuel inductionHypothesis =>
    have rests : Plays transport { timeline with now := stopAt } session :=
      ⟨plays.client, plays.opens, plays.serves, plays.ahead⟩
    rw [Timeline.runUntil]
    cases ready : timeline.alarm? with
    | none => exact ⟨[], _, session, rfl, ⟨by simp, nofun⟩, rests, reached, rfl⟩
    | some alarm =>
      by_cases early : max timeline.now alarm.due < stopAt
      · obtain ⟨wakeup, woken, next, result, wakes, taken, turned, beside⟩ :=
          plays.turn reached.sound ready
        obtain ⟨wakeups, after, last, runs, inOrder, ends, reaches, finishes⟩ :=
          inductionHypothesis beside (reached.turn wakes taken)
        rw [Timeline.follow_now] at inOrder
        refine ⟨(wakeup, (timeline.wake alarm).moment) :: wakeups, after, last, ?_,
          inOrder.cons (le_max_left ..) early wakeup 0, ends, reaches, ?_⟩
        · simp only [if_pos early, turned]
          exact runs
        · simp only [Session.finish, wakes, Session.andThen, taken]
          exact finishes
      · refine ⟨[], _, session, ?_, ⟨by simp, nofun⟩, rests, reached, rfl⟩
        simp only [if_neg early]

/-! ### From start to stop -/

/-- What playing scripts leaves of a client. -/
def Ending.ofPlay : Except InitializationError (Timeline × Connection) → Ending
  | .ok (played, final) => { result := .ok final, opens := played.opens.length }
  | .error error => { result := .error error, opens := 0 }

namespace Timeline

variable {connection : Connection}

/-- A connection with named entities starts to play, beside a session. -/
theorem plays_start (ready : connection.history.isInitialized = true) (scripts : List Script) :
    ∃ opening session, Client.start connection ⟨0, 0⟩ = .ok opening ∧
      Session.start connection ⟨0, 0⟩ = .ok session ∧
      Plays (scripted scripts) (follow { client := opening.1, scripts } opening) session := by
  obtain ⟨session, taken, _⟩ := Session.sound_connect { client := { connection } } rfl
    ⟨.nil, nofun⟩ ready ⟨rfl, by simp, rfl⟩ ⟨0, 0⟩
  have begins : Plays (scripted scripts) { client := { connection }, scripts }
      { client := { connection } } :=
    ⟨rfl, rfl, .idle, fun number => congrArg _ (Nat.zero_add number)⟩
  obtain ⟨opening, turned, beside⟩ := begins.take taken
  exact ⟨opening, session, turned, taken, beside⟩

/-- A connection with named entities can be played to the end, and what it comes to is what a
session comes to in the order of the clock. -/
theorem play_named (ready : connection.history.isInitialized = true) (scripts : List Script)
    (stopAt : Nat) :
    ∃ wakeups played last, play connection scripts stopAt = .ok (played, last.client.stop.1) ∧
      InOrder 0 stopAt wakeups ∧ Plays (scripted scripts) played last ∧
      last.Reached (scripted scripts) connection ∧
      Session.runUntil (scripted scripts) connection ⟨0, 0⟩ wakeups =
        last.finish (scripted scripts) [] := by
  obtain ⟨opening, session, opened, started, beside⟩ := plays_start ready scripts
  obtain ⟨wakeups, played, last, runs, inOrder, ends, reaches, finishes⟩ :=
    beside.runUntil (.start started) stopAt (turnBound scripts stopAt)
  rw [follow_now] at inOrder
  refine ⟨wakeups, played.client.stop.2.foldl carryOut played, last, ?_, inOrder, ?_, reaches, ?_⟩
  · have stopped : played.client.stop.1 = last.client.stop.1 := by rw [ends.client]
    rw [play, opened, ← stopped]
    simp only [bind, Except.bind, runs]
    rfl
  · exact ⟨ends.client, ends.opens, ends.serves, ends.ahead⟩
  · rw [← finishes]
    simp only [Session.runUntil, Session.andThen, ← Session.start_eq, started]

theorem play_unnamed (fresh : connection.history.isInitialized = false) (scripts : List Script)
    (stopAt : Nat) : play connection scripts stopAt = .error .notInitialized := by
  simp only [play, Client.start, Client.connect, Connection.connect_unnamed fresh]
  rfl

/-- Playing scripts is running a client against the server they describe, with the wakeups of
the clock: they come in order, and none at the end or later. What it gives back, how many streams
it opens and whether it fails is the same. -/
theorem play_eq_runUntil (connection : Connection) (scripts : List Script) (stopAt : Nat) :
    ∃ wakeups, InOrder 0 stopAt wakeups ∧
      Ending.ofPlay (play connection scripts stopAt) =
        Session.runUntil (scripted scripts) connection ⟨0, 0⟩ wakeups := by
  cases ready : connection.history.isInitialized with
  | false =>
    refine ⟨[], ⟨by simp, nofun⟩, ?_⟩
    rw [play_unnamed ready, Session.runUntil_unnamed ready]
    rfl
  | true =>
    obtain ⟨wakeups, played, last, done, inOrder, ends, _, same⟩ :=
      play_named ready scripts stopAt
    refine ⟨wakeups, inOrder, ?_⟩
    rw [done, same, Ending.ofPlay, ends.opens]
    rfl

/-- A request is under way. The connection wants it and watches it, and no attempt is
planned. -/
structure Holding (timeline : Timeline) : Prop where
  playing : timeline.playing.isSome = true
  request : timeline.client.request = some timeline.client.connection.generation
  current : timeline.client.connection.isCurrent timeline.client.connection.generation = true
  watched : timeline.client.connection.watchdog.isArmed = true
  alone : timeline.client.connection.retryAt? = none

/-- No request is under way, and an attempt is planned. -/
structure Waiting (timeline : Timeline) : Prop where
  playing : timeline.playing.isSome = false
  request : timeline.client.request = none
  planned : timeline.client.connection.retryAt?.isSome = true

/-- A timeline holds a request or waits if the session beside it does. -/
theorem holds_or_waits {transport : Transport} {timeline : Timeline} {session : Session}
    (plays : Plays transport timeline session) (sound : session.Sound connection) :
    Xor timeline.Holding timeline.Waiting := by
  have same := plays.serves.isSome_eq
  rcases sound.holds_or_waits with ⟨holding, _⟩ | ⟨waiting, _⟩
  · obtain ⟨channel, held, _⟩ := holding.channel
    rw [held] at same
    refine .inl ⟨⟨same, ?_, ?_, ?_, ?_⟩, fun waits => ?_⟩
    · exact plays.client ▸ holding.request
    · exact plays.client ▸ holding.current
    · exact plays.client ▸ holding.watched
    · exact plays.client ▸ holding.alone
    · rw [waits.playing] at same
      cases same
  · rw [waiting.channel] at same
    refine .inr ⟨⟨same, ?_, ?_⟩, fun holds => ?_⟩
    · exact plays.client ▸ waiting.request
    · exact plays.client ▸ waiting.planned
    · rw [holds.playing] at same
      cases same

/-- When the clock stops, a timeline holds a request or waits. -/
theorem holds_or_waits_of_play {scripts : List Script} {stopAt : Nat} {timeline : Timeline}
    {final : Connection} (done : play connection scripts stopAt = .ok (timeline, final)) :
    Xor timeline.Holding timeline.Waiting := by
  cases ready : connection.history.isInitialized with
  | false =>
    rw [play_unnamed ready] at done
    cases done
  | true =>
    obtain ⟨_, played, last, came, _, ends, reaches, _⟩ := play_named ready scripts stopAt
    rw [came] at done
    cases done
    exact holds_or_waits ends reaches.sound

end Timeline

end TreeWatch
