/-
This file says what a JSON text looks like to the reader when its end is cut off. Before
the cut nothing was wrong, or the whole text would be refused too, so the reader stops in
the middle of the value; and a state in the middle of a value merely waits for more, with
one exception. A number that may end where the text does is given its value there, and
digits that are beyond every float are refused, although an exponent that has yet to arrive
could bring the number back into range (`readFirst_piece`).
-/

import TreeWatch.Proofs.Json.Integers

namespace TreeWatch.Json

variable {text piece more rest : Bytes} {value : Json} {state : State}

/-! ### The end of a value -/

/-- What follows a complete value is the end of the text. -/
theorem suffix_of_advance (complete : advance state text = .complete value rest) :
    rest <:+ text := by
  induction text generalizing state with
  | nil => cases complete
  | cons byte text inductionHypothesis =>
    rw [advance] at complete
    cases step : state.step byte with
    | more next =>
      rw [step] at complete
      exact (inductionHypothesis complete).trans (List.suffix_cons byte text)
    | done found =>
      rw [step] at complete
      obtain ⟨_, rfl⟩ := Progress.complete.inj complete
      exact List.suffix_cons byte text
    | doneBefore found =>
      rw [step] at complete
      obtain ⟨_, rfl⟩ := Progress.complete.inj complete
      exact List.suffix_rfl
    | refuse cause =>
      rw [step] at complete
      cases complete
    | refuseBefore cause =>
      rw [step] at complete
      cases complete

/-- Outside all containers the reader of a number yields nothing but a number. -/
theorem number_of_advance {scan : NumberScan}
    (complete : advance (.number scan []) text = .complete value rest) :
    ∃ number, value = .number number := by
  induction text generalizing scan with
  | nil => cases complete
  | cons byte text inductionHypothesis =>
    rw [advance, State.step] at complete
    cases step : scan.step byte with
    | more next =>
      simp only [step] at complete
      exact inductionHypothesis complete
    | refuse cause =>
      simp only [step] at complete
      cases complete
    | ended =>
      simp only [step] at complete
      cases result : scan.value with
      | ok number =>
        simp only [result, State.afterEnded] at complete
        exact ⟨number, (Progress.complete.inj complete).1.symm⟩
      | error cause =>
        simp only [result] at complete
        cases complete

/-- Blanks leave a reader where it is that has nothing to do with them. -/
theorem advance_skipBlanks (stays : ∀ byte, isBlank byte = true → state.step byte = .more state)
    (text : Bytes) : advance state text = advance state (skipBlanks text) := by
  induction text with
  | nil => rfl
  | cons byte text inductionHypothesis =>
    cases blank : isBlank byte with
    | true =>
      rw [advance, stays byte blank, skipBlanks, List.dropWhile_cons_of_pos blank]
      exact inductionHypothesis
    | false => rw [skipBlanks, List.dropWhile_cons_of_neg (by simp [blank])]

/-! ### The one state that does not wait -/

theorem floatOfDigits_error {digits : Nat} {exponent : Int} {cause : Cause}
    (failed : floatOfDigits digits exponent = .error cause) : cause = .numberOutOfRange := by
  simp only [floatOfDigits] at failed
  split at failed
  · cases failed
  · split at failed
    · split at failed
      · exact (Except.error.inj failed).symm
      · cases failed
    · split at failed
      · cases failed
      · exact (Except.error.inj failed).symm

/-- The digits of a number can only be wrong in that they are beyond every float. -/
theorem NumberScan.value_error {scan : NumberScan} {cause : Cause}
    (failed : scan.value = .error cause) : cause = .numberOutOfRange := by
  by_cases float : (scan.scientific || scan.overflowed) = true
  · by_cases tiny : scan.powerOverflowed = true
    · simp only [value, float, tiny, if_true] at failed
      cases failed
    · simp only [value, float, tiny, if_true] at failed
      cases read : floatOfDigits scan.digits
          (scan.shift + if scan.powerNegative = true then -(scan.power : Int) else scan.power) with
      | ok result =>
        rw [read] at failed
        cases failed
      | error other =>
        rw [read] at failed
        rw [← Except.error.inj failed]
        exact floatOfDigits_error read
  · rw [Bool.or_eq_true, not_or, Bool.not_eq_true, Bool.not_eq_true] at float
    obtain ⟨number, result⟩ := exists_value float.1 float.2
    rw [result] at failed
    cases failed

theorem NumberScan.finish_error {scan : NumberScan} {cause : Cause}
    (failed : scan.finish = .error cause) : cause = .endInValue ∨ cause = .numberOutOfRange := by
  unfold NumberScan.finish at failed
  split at failed
  · exact Or.inr (value_error failed)
  · exact Or.inl (Except.error.inj failed).symm

/-- The text stops inside a number that may end there, with digits that are beyond every
float as long as no exponent follows them. -/
def StopsOutOfRange (text : Bytes) : Prop :=
  ∃ scan around, advance (.value []) text = .partly (.number scan around) ∧
    scan.finish = .error .numberOutOfRange

theorem readFirst_stopsOutOfRange (stops : StopsOutOfRange text) :
    readFirst text = .error ⟨.numberOutOfRange, 0⟩ := by
  obtain ⟨scan, around, stopped, finished⟩ := stops
  unfold readFirst
  simp only [stopped, finish_number, finished]
  rfl

theorem not_stopsOutOfRange (progress : advance (.value []) text = .partly state)
    (waiting : state.Open) : ¬ StopsOutOfRange text := by
  rintro ⟨scan, around, stopped, finished⟩
  obtain rfl := Progress.partly.inj (progress.symm.trans stopped)
  obtain ⟨cause, failed, unfinished⟩ := waiting
  rw [finish_number, finished] at failed
  rw [← Except.error.inj failed] at unfinished
  cases unfinished

/-- A state in the middle of a value waits for more, unless it is inside such a number. -/
theorem open_or_outOfRange (lacking : ∀ value, state.finish ≠ .ok value) :
    state.Open ∨ ∃ scan around, state = .number scan around ∧
      scan.finish = .error .numberOutOfRange := by
  cases state with
  | number scan around =>
    cases finished : scan.finish with
    | ok number =>
      cases around with
      | nil =>
        refine absurd ?_ (lacking (.number number))
        rw [finish_number, finished]
        rfl
      | cons frame around =>
        refine Or.inl (open_of_number fun cause failed => ?_)
        rw [finished] at failed
        cases failed
    | error cause =>
      rcases NumberScan.finish_error finished with rfl | rfl
      · refine Or.inl ⟨.endInValue, ?_, rfl⟩
        rw [finish_number, finished]
        rfl
      · exact Or.inr ⟨scan, around, rfl, finished⟩
  | _ => exact Or.inl ⟨_, rfl, rfl⟩

/-- A text that is cut before the end of its value is read as ending early, wherever the cut
is, unless it stops inside such a number. -/
theorem readFirst_piece (whole : advance (.value []) (piece ++ more) = .complete value [])
    (solid : ∀ number, value ≠ .number number) (short : more ≠ [])
    (inRange : ¬ StopsOutOfRange piece) :
    ∃ fault, readFirst piece = .error fault ∧ fault.cause.category = .unfinished := by
  rw [advance_append] at whole
  cases progress : advance (.value []) piece with
  | complete found rest =>
    rw [progress] at whole
    obtain ⟨_, nothing⟩ := Progress.complete.inj whole
    exact absurd (List.append_eq_nil_iff.mp nothing).2 short
  | failed fault =>
    rw [progress] at whole
    cases whole
  | partly state =>
    rw [progress] at whole
    have lacking : ∀ found, state.finish ≠ .ok found := by
      intro found finished
      obtain ⟨scan, _, rfl, _⟩ := number_of_finish finished
      obtain ⟨number, equal⟩ := number_of_advance whole
      exact solid number equal
    rcases open_or_outOfRange lacking with waiting | ⟨scan, around, rfl, finished⟩
    · obtain ⟨cause, finished, unfinished⟩ := waiting
      refine ⟨⟨cause, 0⟩, ?_, unfinished⟩
      unfold readFirst
      simp only [progress, finished]
    · exact absurd ⟨scan, around, progress, finished⟩ inRange

end TreeWatch.Json
