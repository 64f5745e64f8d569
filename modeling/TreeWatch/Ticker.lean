/-
This file defines a ticker: something that is due again and again with a fixed period.
A tick is taken when somebody asks for it, so it may be taken late. After a short delay
the next tick stays where it was; after a long one the ticks missed in between are
skipped, and the ticker falls back into step with the instant it was started at.
-/

namespace TreeWatch

/-- A ticker on a clock of milliseconds. -/
structure Ticker where
  period : Nat
  /-- When the next tick is due. -/
  due : Nat
  period_pos : 0 < period

namespace Ticker

/-- A ticker whose first tick is due at once. Its period is at least a millisecond. -/
def start (now interval : Nat) : Ticker :=
  { period := max interval 1, due := now, period_pos := by omega }

/-- The delay up to which a tick is not late. -/
def tolerance : Nat := 5

/-- The ticker after a tick that was due has been taken. -/
def taken (ticker : Ticker) (now : Nat) : Ticker :=
  { ticker with
    due := if ticker.due + tolerance < now
      then now + ticker.period - (now - ticker.due) % ticker.period
      else ticker.due + ticker.period }

/-- Every tick taken moves the ticker on. -/
theorem due_lt_due_taken (ticker : Ticker) (now : Nat) :
    ticker.due < (ticker.taken now).due := by
  have positive := ticker.period_pos
  have rest := Nat.mod_lt (now - ticker.due) positive
  show ticker.due < if ticker.due + tolerance < now
    then now + ticker.period - (now - ticker.due) % ticker.period
    else ticker.due + ticker.period
  split <;> omega

/-- The instants at which ticks are taken by somebody who waits for them from one
instant up to and including another, and the ticker after that. -/
def ticks (ticker : Ticker) (now stopAt : Nat) : List Nat × Ticker :=
  if _reached : max now ticker.due ≤ stopAt then
    let (later, last) :=
      (ticker.taken (max now ticker.due)).ticks (max now ticker.due) stopAt
    (max now ticker.due :: later, last)
  else ([], ticker)
termination_by stopAt + 1 - ticker.due
decreasing_by
  have moved := due_lt_due_taken ticker (max now ticker.due)
  omega

end Ticker

end TreeWatch
