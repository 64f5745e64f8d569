/-
This file says what one turn of a client leaves behind. The client keeps the number of its
open request on its own; after every turn that is the request the connection wants, or none
if it wants none (`Client.Sound`). Only an attempt opens a request, and a request that is
over is not wanted any more.
-/

import TreeWatch.Client
import TreeWatch.Proofs.Pending

namespace TreeWatch

open Connection (Event Shift)

/-! ### What a turn reports -/

/-- The report of an arrival on a request. -/
def Arrival.event (generation : Nat) : Arrival → Event
  | .chunk bytes => .progress generation bytes
  | .failed error => .requestError generation error
  | .ended => .complete generation

/-- The stream gives nothing after this. -/
def Arrival.IsFinal : Arrival → Prop
  | .chunk _ => False
  | .failed _ | .ended => True

/-- What a turn hands to the connection. -/
def Client.event? (client : Client) : Turn → Option Event
  | .arrival arrival => client.request.map arrival.event
  | .watchdog => some .watchdogDue
  | .retry => some .connect

/-! ### What an event does to a request -/

namespace Connection

variable {before after : Connection} {moment : Moment} {event : Event}

/-- A request that ended or broke is not wanted any more. -/
theorem Shift.final {generation : Nat} {arrival : Arrival}
    (shift : Shift before moment (arrival.event generation) after)
    (current : before.isCurrent generation = true) (final : arrival.IsFinal) :
    after.inFlight = false := by
  have fresh : before.isCurrent generation ≠ false := by simp [current]
  cases arrival with
  | chunk => cases final
  | failed error =>
    cases shift with
    | idle _ futile => exact absurd futile fresh
    | failed => rfl
  | ended =>
    cases shift with
    | idle _ futile => exact absurd futile fresh
    | failed => rfl
    | ended => rfl

end Connection

/-! ### The client's request -/

namespace Client

/-- A client at the top of a round: it has the request the connection wants, and something
is always pending. -/
structure Sound (client : Client) : Prop where
  inStep : client.request =
    if client.connection.inFlight then some client.connection.generation else none
  named : client.connection.history.isInitialized = true
  steady : client.connection.Steady
  busy : client.connection.Busy

variable {client : Client} (moment : Moment)

theorem Sound.isCurrent (sound : client.Sound) {generation : Nat}
    (held : client.request = some generation) :
    client.connection.isCurrent generation = true := by
  rw [sound.inStep] at held
  split at held
  · next wanted =>
    exact (client.connection.isCurrent_iff generation).mpr ⟨wanted, (Option.some.inj held).symm⟩
  · cases held

/-- A client after an event that is not an attempt. -/
def after (client : Client) (event : Event) (moment : Moment) : Client :=
  dropStale { client with connection := (client.connection.step event moment).connection }

theorem turn_arrival (sound : client.Sound) {generation : Nat}
    (held : client.request = some generation) (arrival : Arrival) :
    client.turn (.arrival arrival) moment = .ok
      (client.after (arrival.event generation) moment,
        (client.connection.step (arrival.event generation) moment).effects.map .effect) := by
  cases arrival with
  | chunk bytes =>
    obtain ⟨later, effects, done, _⟩ :=
      @Connection.shift_progress _ moment _ bytes sound.named (sound.isCurrent held)
    simp only [turn, Client.after, held, Arrival.event, Connection.step, done,
      Connection.Outcome.ofResult]
    rfl
  | failed error =>
    simp only [turn, Client.after, held]
    rfl
  | ended =>
    simp only [turn, Client.after, held]
    rfl

theorem turn_watchdog (client : Client) :
    client.turn .watchdog moment = .ok
      (client.after .watchdogDue moment,
        (client.connection.step .watchdogDue moment).effects.map .effect) := rfl

theorem turn_retry (named : client.connection.history.isInitialized = true) :
    client.turn .retry moment = .ok
      ({ connection := (client.connection.step .connect moment).connection
         request := some (client.connection.step .connect moment).connection.generation },
        (client.connection.step .connect moment).effects.map .effect ++ [.openRequest]) := by
  simp only [turn, connect, Connection.step, Connection.connect, if_pos named]
  rfl

theorem dropStale_eq (client : Client) :
    client.dropStale = { client with
      request := client.request.filter client.connection.isCurrent } := by
  obtain ⟨connection, request⟩ := client
  cases request with
  | none => rfl
  | some generation =>
    unfold dropStale
    by_cases current : connection.isCurrent generation = true <;>
      simp [current, Option.filter]

theorem sound_connect (named : client.connection.history.isInitialized = true) :
    Sound { connection := (client.connection.step .connect moment).connection
            request := some (client.connection.step .connect moment).connection.generation } := by
  simp only [Connection.step, Connection.connect, if_pos named]
  exact ⟨rfl, named, ⟨fun _ => rfl, fun _ => rfl⟩, .inl rfl⟩

@[simp] theorem after_connection (client : Client) (event : Event) :
    (client.after event moment).connection = (client.connection.step event moment).connection := by
  rw [after, dropStale_eq]

/-- A turn that a client takes is one event of its connection. -/
theorem Sound.turn_connection (sound : client.Sound) {cause : Turn}
    {result : Client × List Action} (done : client.turn cause moment = .ok result) {event : Event}
    (handed : client.event? cause = some event) :
    result.1.connection = (client.connection.step event moment).connection := by
  cases cause with
  | arrival arrival =>
    obtain ⟨generation, held, rfl⟩ := Option.map_eq_some_iff.mp handed
    rw [turn_arrival moment sound held] at done
    cases done
    exact after_connection ..
  | watchdog =>
    cases handed
    rw [turn_watchdog] at done
    cases done
    exact after_connection ..
  | retry =>
    cases handed
    rw [turn_retry moment sound.named] at done
    cases done
    rfl

/-- An event that is not an attempt leaves a client sound. -/
theorem Sound.after (sound : client.Sound) {event : Event} (other : event ≠ .connect)
    (going : event ≠ .shutdown) : (client.after event moment).Sound := by
  have shift := Connection.shift_step moment event fun _ => sound.named
  obtain ⟨same, still⟩ := shift.unstarted other
  rw [Client.after, dropStale_eq]
  refine ⟨?_, shift.initialized sound.named, shift.steady sound.steady, shift.busy going sound.busy⟩
  generalize (client.connection.step event moment).connection = later at same still
  show client.request.filter later.isCurrent =
    if later.inFlight then some later.generation else none
  rw [sound.inStep, same]
  cases wanted : client.connection.inFlight with
  | false =>
    have unwanted : later.inFlight = false := by simpa [wanted] using still
    simp [unwanted]
  | true => cases goes : later.inFlight <;> simp [Connection.isCurrent, goes, same]

end Client

end TreeWatch
