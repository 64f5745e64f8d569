/-
This file defines a single-shot timer that tells a live connection from a silent
one. Arming it replaces any deadline it had, so it only fires after a full timeout
without a sign of life. Instants are milliseconds of a clock that never goes back.
-/

namespace TreeWatch

/-- A timer with a fixed timeout and at most one pending deadline. -/
structure Watchdog where
  timeout : Nat
  deadline : Option Nat := none
  deriving DecidableEq, Repr

namespace Watchdog

/-- Replaces any pending deadline by a fresh one. -/
def arm (watchdog : Watchdog) (now : Nat) : Watchdog :=
  { watchdog with deadline := some (now + watchdog.timeout) }

def cancel (watchdog : Watchdog) : Watchdog := { watchdog with deadline := none }

def isArmed (watchdog : Watchdog) : Bool := watchdog.deadline.isSome

/-- Whether the deadline has passed. -/
def isDue (watchdog : Watchdog) (now : Nat) : Bool :=
  match watchdog.deadline with
  | some deadline => deadline ≤ now
  | none => false

/-- Disarms the timer if its deadline has passed, and says whether it had. -/
def fire (watchdog : Watchdog) (now : Nat) : Watchdog × Bool :=
  if watchdog.isDue now then (watchdog.cancel, true) else (watchdog, false)

/-- When someone who waits from `now` on for at most `limit` sees the deadline pass. -/
def expiry? (watchdog : Watchdog) (now limit : Nat) : Option Nat :=
  match watchdog.deadline with
  | some deadline => if deadline ≤ now + limit then some (max now deadline) else none
  | none => none

end Watchdog

end TreeWatch
