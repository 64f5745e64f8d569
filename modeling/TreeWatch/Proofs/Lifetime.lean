/-
This file follows a client from the connection it is given to the one it gives back. Use in
the wrong order shows at one place only: an attempt is refused as long as the entities have
not been named. A request that is wanted comes from an attempt that was not refused, so octets
are never refused, and a client that got past its first attempt cannot fail any more, whatever
the server does and whatever wakes it (`errors_only_at_start`).
-/

import TreeWatch.Proofs.Rounds

namespace TreeWatch

open Connection (Event)

/-! ### Naming the entities -/

namespace Connection

variable {connection : Connection} {event : Event} {moment : Moment}

/-- Some event of a run has named the entities. -/
def NamedBy (timeout : Nat) (events : List (Event × Moment)) : Prop :=
  ∃ earlier entities moment later named, events = earlier ++ (.track entities, moment) :: later ∧
    ((new timeout).run earlier).track entities = .ok named

theorem initialized_of_track {entities : List EntityId} {named : Connection × List Effect}
    (done : connection.track entities = .ok named) :
    (connection.step (.track entities) moment).connection.history.isInitialized = true := by
  cases fresh : connection.history.isInitialized with
  | false =>
    obtain ⟨history, notices, taken, named⟩ := track_fresh fresh entities
    simp only [step, taken]
    exact named
  | true =>
    rw [track_named fresh] at done
    cases done

/-- Only naming the entities makes them named. -/
theorem Shift.names {before after : Connection} (shift : Shift before moment event after)
    (named : before.Named) (fresh : before.history.isInitialized = false)
    (ready : after.history.isInitialized = true) : ∃ entities, event = .track entities := by
  have stale (generation : Nat) : before.isCurrent generation ≠ true := by
    intro current
    rw [named ((before.isCurrent_iff generation).mp current).1] at fresh
    cases fresh
  cases shift with
  | tracked entities => exact ⟨entities, rfl⟩
  | took generation _ current => exact absurd current (stale generation)
  | _ => exact absurd (fresh.symm.trans ready) Bool.false_ne_true

/-- Entities that are named stay named. -/
theorem initialized_run (ready : connection.history.isInitialized = true)
    (events : List (Event × Moment)) : (connection.run events).history.isInitialized = true := by
  induction events generalizing connection with
  | nil => exact ready
  | cons event rest inductionHypothesis =>
    exact inductionHypothesis ((shift_step event.2 event.1 fun _ => ready).initialized ready)

theorem initialized_run_iff (timeout : Nat) (events : List (Event × Moment)) :
    ((new timeout).run events).history.isInitialized = true ↔ NamedBy timeout events := by
  constructor
  · intro ready
    induction events using List.reverseRecOn with
    | nil => cases ready
    | append_singleton events event inductionHypothesis =>
      obtain ⟨event, moment⟩ := event
      cases earlier : ((new timeout).run events).history.isInitialized with
      | true =>
        obtain ⟨first, entities, at', later, named, rfl, done⟩ := inductionHypothesis earlier
        exact ⟨first, entities, at', later ++ [(event, moment)], named,
          List.append_assoc .., done⟩
      | false =>
        have named := run_named (new_named timeout) events
        rw [run_append] at ready
        obtain ⟨entities, rfl⟩ := (shift_step moment event named).names named earlier ready
        obtain ⟨history, notices, done, _⟩ := track_fresh earlier entities
        exact ⟨events, entities, moment, [], _, rfl, done⟩
  · rintro ⟨earlier, entities, moment, later, named, rfl, done⟩
    rw [run_append, run_cons]
    exact initialized_run (initialized_of_track done) later

/-! ### What may be refused -/

theorem progress_ok (named : connection.Named) (generation : Nat) (chunk : Bytes)
    (moment : Moment) : ∃ result, connection.progress generation chunk moment = .ok result := by
  cases current : connection.isCurrent generation with
  | true =>
    have wanted := ((connection.isCurrent_iff generation).mp current).1
    obtain ⟨after, effects, done, _⟩ :=
      @shift_progress connection moment generation chunk (named wanted) current
    exact ⟨_, done⟩
  | false => exact ⟨_, progress_stale moment current⟩

theorem connect_unnamed (fresh : connection.history.isInitialized = false) (moment : Moment) :
    connection.connect moment = .error .notInitialized := by
  rw [connect, if_neg (by simp [fresh])]

theorem connect_named (ready : connection.history.isInitialized = true) (moment : Moment) :
    ∃ opened, connection.connect moment = .ok opened := by
  rw [connect, if_pos ready]
  exact ⟨_, rfl⟩

/-- No request is wanted, the watchdog is off and no attempt is planned. -/
structure Off (connection : Connection) : Prop where
  unwanted : connection.inFlight = false
  unwatched : connection.watchdog.isArmed = false
  unplanned : connection.retryAt? = none

theorem off_shutdown (connection : Connection) : connection.shutdown.Off := ⟨rfl, rfl, rfl⟩

end Connection

/-! ### From start to stop -/

/-- What is left of a client: what it gave back, and how many streams it opened. -/
structure Ending where
  result : Except InitializationError Connection
  opens : Nat

namespace Session

/-- Hands a turn to the client and goes on with the session it leads to. An error is the end
of the client. -/
def andThen (session : Session) (cause : Turn) (moment : Moment) (next : Session → Ending) :
    Ending :=
  match session.take cause moment with
  | .ok after => next after
  | .error error => { result := .error error, opens := session.opens }

/-- Takes a session through some wakeups and stops it. A wakeup that cannot happen is passed
by. -/
def finish (transport : Transport) : List (Wakeup × Moment) → Session → Ending
  | [], session => { result := .ok session.client.stop.1, opens := session.opens }
  | (wakeup, moment) :: later, session =>
    match session.wake? transport wakeup with
    | none => finish transport later session
    | some (cause, woken) => woken.andThen cause moment (finish transport later)

/-- Runs a client on a connection. It makes its first attempt, goes through some wakeups and
is stopped. -/
def runUntil (transport : Transport) (connection : Connection) (opening : Moment)
    (wakeups : List (Wakeup × Moment)) : Ending :=
  andThen { client := { connection } } .retry opening (finish transport wakeups)

variable {connection : Connection} {session : Session}

/-- A sound session comes through any wakeups and gives back a connection that is off. -/
theorem Sound.finish (sound : session.Sound connection) (transport : Transport)
    (wakeups : List (Wakeup × Moment)) :
    ∃ final, (finish transport wakeups session).result = .ok final ∧ final.Off := by
  induction wakeups generalizing session with
  | nil => exact ⟨_, rfl, Connection.off_shutdown _⟩
  | cons head later inductionHypothesis =>
    obtain ⟨wakeup, moment⟩ := head
    rw [Session.finish]
    cases ready : session.wake? transport wakeup with
    | none => exact inductionHypothesis sound
    | some turn =>
      obtain ⟨cause, woken⟩ := turn
      obtain ⟨after, taken, next⟩ := sound.turn ready moment
      simp only [andThen, taken]
      exact inductionHypothesis next

theorem runUntil_named (ready : connection.history.isInitialized = true) (transport : Transport)
    (opening : Moment) (wakeups : List (Wakeup × Moment)) :
    ∃ final, (runUntil transport connection opening wakeups).result = .ok final ∧
      final.Off := by
  obtain ⟨after, taken, sound⟩ := sound_connect { client := { connection } } rfl ⟨.nil, nofun⟩
    ready ⟨rfl, by simp, rfl⟩ opening
  simp only [runUntil, andThen, taken]
  exact sound.finish transport wakeups

theorem runUntil_unnamed (fresh : connection.history.isInitialized = false)
    (transport : Transport) (opening : Moment) (wakeups : List (Wakeup × Moment)) :
    runUntil transport connection opening wakeups =
      { result := .error .notInitialized, opens := 0 } := by
  simp only [runUntil, andThen, take, Client.turn, Client.connect,
    Connection.connect_unnamed fresh opening]
  rfl

end Session

namespace Connection

/-- After any events whatsoever octets are taken, about whatever request they are. An attempt
is refused exactly if the entities have not been named, and then nothing changes. A client
that is given such a connection fails at once without opening a stream. One that is given any
other comes through whatever the server does and whatever wakes it, and the connection it
gives back is off. -/
theorem errors_only_at_start (timeout : Nat) (events : List (Event × Moment)) :
    let connection := (new timeout).run events
    (∀ generation chunk moment, ∃ result,
        connection.progress generation chunk moment = .ok result) ∧
      (∀ moment, (connection.connect moment = .error .notInitialized ↔
          ¬ NamedBy timeout events) ∧
        ∀ error, connection.connect moment = .error error →
          connection.step .connect moment = { connection, error := some .notInitialized }) ∧
      ∀ transport opening wakeups,
        (NamedBy timeout events → ∃ final,
          (Session.runUntil transport connection opening wakeups).result = .ok final ∧
            final.Off) ∧
        (¬ NamedBy timeout events → Session.runUntil transport connection opening wakeups =
          { result := .error .notInitialized, opens := 0 }) := by
  intro connection
  have named : connection.Named := run_named (new_named timeout) events
  have unready : ¬ NamedBy timeout events → connection.history.isInitialized = false := by
    rw [← initialized_run_iff timeout events]
    exact eq_false_of_ne_true
  refine ⟨progress_ok named, fun moment => ⟨⟨?_, ?_⟩, ?_⟩, fun transport opening wakeups => ?_⟩
  · intro refused known
    obtain ⟨opened, done⟩ :=
      connect_named ((initialized_run_iff timeout events).mpr known) moment
    rw [done] at refused
    cases refused
  · exact fun unknown => connect_unnamed (unready unknown) moment
  · intro error refused
    cases ready : connection.history.isInitialized with
    | true =>
      obtain ⟨opened, done⟩ := connect_named ready moment
      rw [done] at refused
      cases refused
    | false =>
      rw [step, connect_unnamed ready moment]
      rfl
  · refine ⟨fun known => ?_, fun unknown => ?_⟩
    · exact Session.runUntil_named ((initialized_run_iff timeout events).mpr known) transport
        opening wakeups
    · exact Session.runUntil_unnamed (unready unknown) transport opening wakeups

end Connection

end TreeWatch
