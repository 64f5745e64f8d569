/-
This file proves what reading JSON octet by octet owes to its order: what the reader
makes of a text is decided by the octets up to the end of the value, so appending
octets changes nothing but the rest (`advance_append`, `readFirst_append`). A text
that stops early is told apart from a faulty one by the state it stops in: an open state
merely waits for more.

`Leads` follows the reader along a piece of text through states that all wait for
more. Pieces compose, so a text written from pieces is read piece by piece, and
wherever it is cut the reader reports an early end.
-/

import TreeWatch.Json.Reader

namespace TreeWatch.Json

/-! ### Appending octets -/

/-- What becomes of some progress when octets are appended to the text. -/
def Progress.resume (progress : Progress) (more : Bytes) : Progress :=
  match progress with
  | .complete value rest => .complete value (rest ++ more)
  | .partly state => advance state more
  | .failed fault => .failed { fault with unread := fault.unread + more.length }

theorem advance_append (state : State) (text more : Bytes) :
    advance state (text ++ more) = (advance state text).resume more := by
  induction text generalizing state with
  | nil => rfl
  | cons byte rest inductionHypothesis =>
    rw [List.cons_append, advance, advance]
    cases state.step byte with
    | more next => exact inductionHypothesis next
    | done value => rfl
    | doneBefore value => rfl
    | refuse cause => simp [Progress.resume]
    | refuseBefore cause => simp [Progress.resume, Nat.add_right_comm]

theorem finish_number (scan : NumberScan) (around : List Frame) :
    (State.number scan around).finish =
      scan.finish.bind fun result => State.endWithin (.number result) around := by
  rw [State.finish]
  cases scan.finish <;> rfl

/-- A text can stop in the middle of a value and still be complete only in a number that
stands outside all containers. -/
theorem number_of_finish {state : State} {value : Json} (finished : state.finish = .ok value) :
    ∃ scan number, state = .number scan [] ∧ value = .number number := by
  cases state with
  | number scan around =>
    rw [finish_number] at finished
    cases result : scan.finish with
    | error cause =>
      rw [result] at finished
      cases finished
    | ok number =>
      rw [result] at finished
      cases around with
      | nil => exact ⟨scan, number, rfl, (Except.ok.inj finished).symm⟩
      | cons frame around => cases frame <;> cases finished
  | _ => cases finished

/-- A value other than a number shows its own end. -/
theorem advance_of_readFirst {text rest : Bytes} {value : Json}
    (read : readFirst text = .ok (value, rest)) (solid : ∀ number, value ≠ .number number) :
    advance (.value []) text = .complete value rest := by
  unfold readFirst at read
  cases progress : advance (.value []) text with
  | complete found after =>
    rw [progress] at read
    obtain ⟨rfl, rfl⟩ := Prod.mk.inj (Except.ok.inj read)
    rfl
  | failed fault =>
    rw [progress] at read
    cases read
  | partly state =>
    rw [progress] at read
    cases finished : state.finish with
    | ok found =>
      simp only [finished] at read
      obtain ⟨rfl, _⟩ := Prod.mk.inj (Except.ok.inj read)
      obtain ⟨_, number, _, equal⟩ := number_of_finish finished
      exact absurd equal (solid number)
    | error cause =>
      simp only [finished] at read
      cases read

/-- Octets after a complete value that is not a number are left alone. -/
theorem readFirst_append {text rest : Bytes} {value : Json}
    (read : readFirst text = .ok (value, rest)) (solid : ∀ number, value ≠ .number number)
    (more : Bytes) : readFirst (text ++ more) = .ok (value, rest ++ more) := by
  unfold readFirst
  rw [advance_append, advance_of_readFirst read solid]
  rfl

theorem expectEnd_eq_ok_iff {rest : Bytes} : expectEnd rest = .ok () ↔ skipBlanks rest = [] := by
  unfold expectEnd
  cases skipBlanks rest with
  | nil => exact ⟨fun _ => rfl, fun _ => rfl⟩
  | cons byte after => exact ⟨nofun, nofun⟩

/-- A text holds one value if the value is read at its front and only blanks follow. -/
theorem read_eq_ok_iff {text : Bytes} {value : Json} :
    read text = .ok value ↔ ∃ rest, readFirst text = .ok (value, rest) ∧ skipBlanks rest = [] := by
  unfold read
  cases first : readFirst text with
  | error fault => exact ⟨nofun, fun ⟨_, impossible, _⟩ => nomatch impossible⟩
  | ok result =>
    obtain ⟨found, rest⟩ := result
    constructor
    · intro done
      cases ended : expectEnd rest with
      | error fault =>
        simp only [bind, Except.bind, ended] at done
        cases done
      | ok =>
        simp only [bind, Except.bind, ended] at done
        obtain rfl := Except.ok.inj done
        exact ⟨rest, rfl, expectEnd_eq_ok_iff.mp ended⟩
    · rintro ⟨after, same, blank⟩
      obtain ⟨rfl, rfl⟩ := Prod.mk.inj (Except.ok.inj same)
      simp only [bind, Except.bind, expectEnd_eq_ok_iff.mpr blank]
      rfl

/-! ### Stopping early -/

/-- A text that stops in this state merely stops too early. -/
def State.Open (state : State) : Prop :=
  ∃ cause, state.finish = .error cause ∧ cause.category = .unfinished

/-- Inside a container a number that may stop here leaves the container open. -/
theorem open_of_number {scan : NumberScan} {frame : Frame} {around : List Frame}
    (sound : ∀ cause, scan.finish = .error cause → cause.category = .unfinished) :
    (State.number scan (frame :: around)).Open := by
  unfold State.Open
  rw [finish_number]
  cases finished : scan.finish with
  | ok number => cases frame <;> exact ⟨_, rfl, rfl⟩
  | error cause => exact ⟨cause, rfl, sound cause finished⟩

/-- The reader gets from one state to another along some octets, and every state on the
way, both ends included, waits for more. -/
inductive Leads : State → Bytes → State → Prop where
  | stay {state : State} (waiting : state.Open) : Leads state [] state
  | step {before between after : State} {byte : UInt8} {rest : Bytes} (waiting : before.Open)
      (taken : before.step byte = .more between) (onward : Leads between rest after) :
      Leads before (byte :: rest) after

namespace Leads

variable {before between after : State} {first second text : Bytes}

theorem single {byte : UInt8} (waiting : before.Open) (taken : before.step byte = .more after)
    (arrived : after.Open) : Leads before [byte] after :=
  .step waiting taken (.stay arrived)

theorem arrived (leads : Leads before first after) : after.Open := by
  induction leads with
  | stay waiting => exact waiting
  | step _ _ _ inductionHypothesis => exact inductionHypothesis

theorem trans (head : Leads before first between) (tail : Leads between second after) :
    Leads before (first ++ second) after := by
  induction head with
  | stay => exact tail
  | step waiting taken _ inductionHypothesis => exact .step waiting taken (inductionHypothesis tail)

theorem advance_eq (leads : Leads before text after) : advance before text = .partly after := by
  induction leads with
  | stay => rfl
  | step _ taken _ inductionHypothesis =>
    rw [advance, taken]
    exact inductionHypothesis

/-- Wherever the octets are cut, the reader has got to a state that waits for more. -/
theorem cut (leads : Leads before text after) {part : Bytes} (early : part <+: text) :
    ∃ state, advance before part = .partly state ∧ state.Open := by
  induction leads generalizing part with
  | stay waiting =>
    rw [List.prefix_nil.mp early]
    exact ⟨_, rfl, waiting⟩
  | @step before _ _ byte _ waiting taken _ inductionHypothesis =>
    cases part with
    | nil => exact ⟨before, rfl, waiting⟩
    | cons head part =>
      obtain ⟨rfl, rest⟩ := List.cons_prefix_cons.mp early
      rw [advance, taken]
      exact inductionHypothesis rest

end Leads

/-- A text that is cut along the way of a value is read as ending early. -/
theorem readFirst_cut {text part : Bytes} {state : State} (leads : Leads (.value []) text state)
    (early : part <+: text) :
    ∃ fault, readFirst part = .error fault ∧ fault.cause.category = .unfinished := by
  obtain ⟨reached, progress, cause, finished, unfinished⟩ := leads.cut early
  refine ⟨⟨cause, 0⟩, ?_, unfinished⟩
  unfold readFirst
  simp only [progress, finished]

end TreeWatch.Json
