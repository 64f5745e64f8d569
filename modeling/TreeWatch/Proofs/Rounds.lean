/-
This file follows a client through its loop, against any server and whatever wakes it next.
At the top of every round it either holds one stream, which the connection wants, watches
and does not mean to replace, or it holds none and the next attempt is planned
(`round_holds_or_waits`). The stream that is held and the connection's own account of it are
kept in step by each turn: a turn that makes the connection give up a request also drops the
stream.
-/

import Mathlib.Data.List.Infix
import TreeWatch.Proofs.Session

namespace TreeWatch

open Connection (Event)

/-! ### What is handed on -/

/-- What was handed to a connection made it what it is now; each report among it was about
the request wanted at the time, and it started as many requests as streams were opened. -/
structure Told (connection now : Connection) (handed : List (Event × Moment)) (opens : Nat) :
    Prop where
  ran : now = connection.run handed
  wanted : ∀ earlier event moment, earlier ++ [(event, moment)] <+: handed →
    ∀ generation ∈ event.generation?, (connection.run earlier).isCurrent generation = true
  counted : opens = connection.connects handed

theorem Told.hand {connection now : Connection} {handed : List (Event × Moment)} {opens : Nat}
    (told : Told connection now handed opens) (event : Event) (moment : Moment)
    (current : ∀ generation ∈ event.generation?, now.isCurrent generation = true) :
    Told connection (now.step event moment).connection (handed ++ [(event, moment)])
      (opens + (now.starts moment event).toNat) := by
  obtain ⟨rfl, wanted, counted⟩ := told
  refine ⟨?_, ?_, ?_⟩
  · rw [Connection.run_append]
    rfl
  · intro earlier other at' begins
    rcases List.prefix_concat_iff.mp begins with whole | early
    · obtain ⟨rfl, last⟩ := List.append_inj' whole rfl
      cases last
      exact current
    · exact wanted earlier other at' early
  · rw [Connection.connects_concat, counted]

/-! ### Rounds -/

namespace Session

@[simp] theorem drop_channel (session : Session) : session.drop.channel = none := by
  unfold drop
  split
  · rfl
  · assumption

@[simp] theorem drop_client (session : Session) : session.drop.client = session.client := by
  unfold drop
  split <;> rfl

@[simp] theorem drop_handed (session : Session) : session.drop.handed = session.handed := by
  unfold drop
  split <;> rfl

@[simp] theorem opens_drop (session : Session) : session.drop.opens = session.opens := by
  unfold drop
  split
  · exact List.countP_append
  · rfl

@[simp] theorem opens_poll (session : Session) (channel : Channel) (arrival : Arrival) :
    (session.poll channel arrival).opens = session.opens := List.countP_append

theorem drop_of_free {session : Session} (free : session.channel = none) :
    session.drop = session := by
  simp only [drop, free]

theorem orderly_drop {session : Session} (orderly : Orderly session.sights)
    (known : ∀ channel ∈ session.channel, channel.number < session.opens) :
    Orderly session.drop.sights := by
  unfold drop
  split
  · next channel held => exact orderly.dropped (known channel held)
  · exact orderly

theorem foldl_carryOut_effects (session : Session) (effects : List Effect) :
    (effects.map Action.effect).foldl carryOut session = session := by
  induction effects with
  | nil => rfl
  | cons effect effects inductionHypothesis => exact inductionHypothesis

theorem follow_effects (session : Session) (client : Client) (effects : List Effect) :
    session.follow (client, effects.map .effect) =
      if client.request.isNone then drop { session with client } else { session with client } := by
  rw [follow, foldl_carryOut_effects]

/-- What an event that is not an attempt makes of a session. -/
def settle (session : Session) (event : Event) (moment : Moment) : Session :=
  follow { session with handed := session.handed ++ [(event, moment)] }
    (session.client.after event moment,
      (session.client.connection.step event moment).effects.map .effect)

/-- A session that has just been woken: the client is sound, a stream is held exactly if a
request is wanted, and what was seen and handed on so far is as it should be. The stream may
have given its last. -/
structure Woken (connection : Connection) (session : Session) : Prop where
  client : session.client.Sound
  held : session.channel.isSome = session.client.connection.inFlight
  orderly : Orderly session.sights
  known : ∀ channel ∈ session.channel, channel.number < session.opens
  told : Told connection session.client.connection session.handed session.opens

/-- A session at the top of a round: the stream is not over either. -/
structure Sound (connection : Connection) (session : Session) : Prop where
  client : session.client.Sound
  held : session.channel.isSome = session.client.connection.inFlight
  live : ∀ channel ∈ session.channel, channel.Live session.sights
  orderly : Orderly session.sights
  told : Told connection session.client.connection session.handed session.opens

variable {connection : Connection} {session : Session}

theorem Sound.woken (sound : session.Sound connection) : session.Woken connection :=
  ⟨sound.client, sound.held, sound.orderly, fun channel held => (sound.live channel held).lt,
    sound.told⟩

theorem follow_open (free : session.channel = none) (connection : Connection) (generation : Nat)
    (effects : List Effect) :
    session.follow ({ connection, request := some generation },
        effects.map .effect ++ [.openRequest]) =
      { session with
        client := { connection, request := some generation }
        channel := some { number := session.opens }
        sights := session.sights ++ [.opened session.opens] } := by
  have free' : Session.channel { session with
      client := { connection, request := some generation } } = none := free
  rw [follow, List.foldl_append, foldl_carryOut_effects, List.foldl_cons, carryOut,
    drop_of_free free']
  rfl

theorem take_retry (free : session.channel = none)
    (named : session.client.connection.history.isInitialized = true) (moment : Moment) :
    session.take .retry moment = .ok
      { client :=
          { connection := (session.client.connection.step .connect moment).connection
            request := some (session.client.connection.step .connect moment).connection.generation }
        channel := some { number := session.opens }
        sights := session.sights ++ [.opened session.opens]
        handed := session.handed ++ [(.connect, moment)] } := by
  have free' : Session.channel { session with
      handed := session.handed ++ [(.connect, moment)] } = none := free
  rw [take, Client.turn_retry moment named]
  exact congrArg Except.ok (follow_open free' _ _ _)

/-- An attempt succeeds while no stream is held, and holds a new one. -/
theorem sound_connect (session : Session) (free : session.channel = none)
    (orderly : Orderly session.sights)
    (named : session.client.connection.history.isInitialized = true)
    (told : Told connection session.client.connection session.handed session.opens)
    (moment : Moment) :
    ∃ after, session.take .retry moment = .ok after ∧ after.Sound connection := by
  refine ⟨_, take_retry free named moment, ?_⟩
  have wanted : (session.client.connection.step .connect moment).connection.inFlight = true := by
    simp only [Connection.step, Connection.connect, if_pos named]
    rfl
  have counted := told.hand .connect moment (by rintro _ ⟨⟩)
  rw [Connection.starts_connect moment named] at counted
  refine ⟨Client.sound_connect moment named, wanted.symm, ?_, orderly.opened _, ?_⟩
  · rintro channel ⟨⟩
    exact Channel.live_opened orderly
  · show Told _ _ _ (List.countP _ (_ ++ _))
    rw [List.countP_append]
    exact counted

/-- Once a client is sound again, its session is: the stream stays if the request is still
wanted, and is let go otherwise. -/
theorem sound_follow (session : Session) {next : Client} (settled : next.Sound)
    (held : next.connection.inFlight = true → session.channel.isSome = true)
    (live : next.connection.inFlight = true →
      ∀ channel ∈ session.channel, channel.Live session.sights)
    (orderly : Orderly session.sights)
    (known : ∀ channel ∈ session.channel, channel.number < session.opens)
    (told : Told connection next.connection session.handed session.opens)
    (effects : List Effect) : (session.follow (next, effects.map .effect)).Sound connection := by
  have request := settled.inStep
  rw [follow_effects]
  cases wanted : next.connection.inFlight with
  | true =>
    rw [wanted, if_pos rfl] at request
    rw [request, if_neg (by simp)]
    exact ⟨settled, (held wanted).trans wanted.symm, live wanted, orderly, told⟩
  | false =>
    rw [wanted, if_neg (by simp)] at request
    rw [request]
    show (drop { session with client := next }).Sound connection
    refine ⟨by rwa [drop_client], ?_, ?_, orderly_drop orderly known, ?_⟩
    · rw [drop_channel, drop_client]
      exact wanted.symm
    · rw [drop_channel]
      nofun
    · rwa [drop_client, drop_handed, opens_drop]

/-- An event that is not an attempt leaves a session sound, provided that a stream which is
still wanted has not given its last. -/
theorem Woken.settle (woken : session.Woken connection) (event : Event) (moment : Moment)
    (other : event ≠ .connect) (going : event ≠ .shutdown)
    (current : ∀ generation ∈ event.generation?,
      session.client.connection.isCurrent generation = true)
    (live : (session.client.connection.step event moment).connection.inFlight = true →
      ∀ channel ∈ session.channel, channel.Live session.sights) :
    (session.settle event moment).Sound connection := by
  have shift := Connection.shift_step moment event fun _ => woken.client.named
  have counted := woken.told.hand event moment current
  rw [Connection.starts_of_ne _ moment other, Bool.toNat_false, Nat.add_zero] at counted
  refine sound_follow { session with handed := session.handed ++ [(event, moment)] }
    (woken.client.after moment other going) ?_ ?_ woken.orderly woken.known ?_ _
  · rw [Client.after_connection]
    exact fun wanted => woken.held.trans ((shift.unstarted other).2 wanted)
  · rw [Client.after_connection]
    exact live
  · rw [Client.after_connection]
    exact counted

theorem take_arrival (session : Session) (sound : session.client.Sound) {generation : Nat}
    (held : session.client.request = some generation) (arrival : Arrival) (moment : Moment) :
    session.take (.arrival arrival) moment =
      .ok (session.settle (arrival.event generation) moment) := by
  rw [take, Client.turn_arrival moment sound held, Client.event?, held]
  rfl

theorem take_watchdog (session : Session) (moment : Moment) :
    session.take .watchdog moment = .ok (session.settle .watchdogDue moment) := by
  rw [take, Client.turn_watchdog]
  rfl

/-- Polling leaves everything as it is but the stream itself. -/
theorem Woken.poll (sound : session.Sound connection) {channel : Channel}
    (held : session.channel = some channel) (arrival : Arrival) :
    (session.poll channel arrival).Woken connection := by
  have live := sound.live channel held
  refine ⟨sound.client, ?_, sound.orderly.polled live arrival, ?_, ?_⟩
  · exact (congrArg Option.isSome held).symm.trans sound.held
  · rintro _ ⟨⟩
    rw [opens_poll]
    exact live.lt
  · rw [opens_poll]
    exact sound.told

/-- Whatever the stream that is held gives, the next round starts as sound. -/
theorem Sound.poll (sound : session.Sound connection) {channel : Channel}
    (held : session.channel = some channel) (arrival : Arrival) (moment : Moment) :
    ∃ after, (session.poll channel arrival).take (.arrival arrival) moment = .ok after ∧
      after.Sound connection := by
  have live := sound.live channel held
  have wanted : session.client.connection.inFlight = true := by
    rw [← sound.held, held]
    rfl
  have request := sound.client.inStep
  rw [if_pos wanted] at request
  have current := sound.client.isCurrent request
  have shift := Connection.shift_step moment
    (arrival.event session.client.connection.generation) fun _ => sound.client.named
  refine ⟨_, take_arrival (session.poll channel arrival) sound.client request arrival moment,
    (Woken.poll sound held arrival).settle _ moment ?other ?going ?current ?live⟩
  case other => cases arrival <;> nofun
  case going => cases arrival <;> nofun
  case current => cases arrival <;> rintro _ ⟨⟩ <;> exact current
  case live =>
    rintro still _ ⟨⟩
    refine live.polled fun final => ?_
    exact absurd still (Bool.eq_false_iff.mp (shift.final current final))

/-- Whatever can wake a session, the turn succeeds and the next round starts as sound. -/
theorem Sound.turn {transport : Transport} (sound : session.Sound connection) {wakeup : Wakeup}
    {cause : Turn} {woken : Session}
    (ready : session.wake? transport wakeup = some (cause, woken)) (moment : Moment) :
    ∃ after, woken.take cause moment = .ok after ∧ after.Sound connection := by
  cases wakeup with
  | stream =>
    obtain ⟨channel, held, ready⟩ := Option.bind_eq_some_iff.mp ready
    obtain ⟨arrival, _, equal⟩ := Option.map_eq_some_iff.mp ready
    obtain ⟨rfl, rfl⟩ := Prod.mk.inj equal
    exact sound.poll held arrival moment
  | watchdog =>
    simp only [wake?] at ready
    split at ready
    · obtain ⟨rfl, rfl⟩ := Prod.mk.inj (Option.some.inj ready)
      exact ⟨_, take_watchdog session moment,
        sound.woken.settle .watchdogDue moment nofun nofun nofun fun _ => sound.live⟩
    · cases ready
  | retry =>
    simp only [wake?] at ready
    split at ready
    · next planned =>
      obtain ⟨rfl, rfl⟩ := Prod.mk.inj (Option.some.inj ready)
      have unwanted : session.client.connection.inFlight = false := by
        by_contra wanted
        rw [sound.client.steady.alone (by simpa using wanted)] at planned
        cases planned
      have free : session.channel = none := by
        simpa [unwanted] using sound.held
      exact sound_connect session free sound.orderly sound.client.named sound.told moment
    · cases ready

theorem start_eq (connection : Connection) (opening : Moment) :
    start connection opening = ({ client := { connection } } : Session).take .retry opening := rfl

theorem Reached.sound {transport : Transport} (reached : Reached transport connection session) :
    session.Sound connection := by
  induction reached with
  | @start opening session done =>
    rw [start_eq] at done
    by_cases named : connection.history.isInitialized = true
    · obtain ⟨after, taken, sound⟩ := sound_connect { client := { connection } } rfl
        ⟨.nil, nofun⟩ named ⟨rfl, by simp, rfl⟩ opening
      rw [taken] at done
      cases done
      exact sound
    · simp only [take, Client.turn, Client.connect, Connection.connect, if_neg named] at done
      cases done
  | @turn session woken after wakeup cause moment reached ready done sound =>
    obtain ⟨other, taken, next⟩ := sound.turn ready moment
    rw [done] at taken
    cases taken
    exact next

/-- A sound session holds a stream or waits, and does not do both. -/
theorem Sound.holds_or_waits (sound : session.Sound connection) :
    Xor session.Holding session.Waiting := by
  have inStep := sound.client.inStep
  cases wanted : session.client.connection.inFlight with
  | true =>
    rw [wanted, if_pos rfl] at inStep
    have some := sound.held.trans wanted
    obtain ⟨channel, held⟩ := Option.isSome_iff_exists.mp some
    refine .inl ⟨⟨⟨channel, held, sound.live channel held⟩, inStep,
      sound.client.isCurrent inStep, sound.client.steady.watched wanted,
      sound.client.steady.alone wanted⟩, fun waiting => ?_⟩
    rw [waiting.channel] at held
    cases held
  | false =>
    rw [wanted, if_neg (by simp)] at inStep
    have free : session.channel = none := by simpa [wanted] using sound.held
    have planned := sound.client.busy.resolve_left (by simp [wanted])
    refine .inr ⟨⟨free, inStep, planned⟩, fun holding => ?_⟩
    obtain ⟨channel, held, _⟩ := holding.channel
    rw [free] at held
    cases held

theorem Sound.can_wake (sound : session.Sound connection) (transport : Transport) :
    ∃ wakeup, (session.wake? transport wakeup).isSome = true := by
  rcases sound.holds_or_waits with ⟨holding, _⟩ | ⟨waiting, _⟩
  · exact ⟨.watchdog, by simp [wake?, holding.watched]⟩
  · exact ⟨.retry, by simp [wake?, waiting.planned]⟩

/-- At the top of every round a client either holds one stream, wanted and watched and with
no attempt planned, or holds none and an attempt is planned. Something can wake it, and
whatever does, the turn succeeds. All that was handed on made the connection what it is, and
each report was about the request wanted at the time. No stream was polled once it was over,
and as many streams were opened as attempts succeeded. -/
theorem round_holds_or_waits (transport : Transport) (connection : Connection)
    (session : Session) (reached : Reached transport connection session) :
    Xor session.Holding session.Waiting ∧
      (∃ wakeup, (session.wake? transport wakeup).isSome = true) ∧
      (∀ wakeup cause woken moment, session.wake? transport wakeup = some (cause, woken) →
        ∃ after, woken.take cause moment = .ok after) ∧
      session.client.connection = connection.run session.handed ∧
      (∀ earlier event moment, earlier ++ [(event, moment)] <+: session.handed →
        ∀ generation ∈ event.generation?, (connection.run earlier).isCurrent generation = true) ∧
      session.sights.Pairwise (fun earlier later => ∀ number, earlier.Closes number →
        ¬ later.Polls number) ∧
      session.opens = connection.connects session.handed := by
  have sound := reached.sound
  refine ⟨sound.holds_or_waits, sound.can_wake transport, ?_, sound.told.ran, sound.told.wanted,
    sound.orderly.once, sound.told.counted⟩
  intro wakeup cause woken moment ready
  obtain ⟨after, taken, _⟩ := sound.turn ready moment
  exact ⟨after, taken⟩

/-- A server that ends its first request at once is asked again. -/
theorem round_holds_or_waits_reopened :
    ∃ session, Reached (fun _ _ => some .ended)
        ((Connection.new 100).step (.track ["pump"]) ⟨0, 0⟩).connection session ∧
      session.opens = 2 ∧ Xor session.Holding session.Waiting := by
  have opened := @Reached.start (fun _ _ => some .ended)
    ((Connection.new 100).step (.track ["pump"]) ⟨0, 0⟩).connection ⟨0, 0⟩ _ rfl
  have ended := @Reached.turn _ _ _ _ _ .stream _ ⟨5, 0⟩ opened rfl rfl
  have reopened := @Reached.turn _ _ _ _ _ .retry _ ⟨105, 0⟩ ended rfl rfl
  exact ⟨_, reopened, rfl, (round_holds_or_waits _ _ _ reopened).1⟩

end Session

end TreeWatch
