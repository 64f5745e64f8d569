/-
This file proves what the reader makes of a text that begins with a brace. Up to the closing
brace it is inside of an object and of nothing further out (`State.InObject`), so if the text
holds a value, this is an object (`object_of_readFirst`). The closing brace is the last octet the
value needs: cut off right behind it, the text holds the same object and nothing else
(`read_of_readFirst`), and a text of which a piece holds an object begins with that object
(`readFirst_of_read`).
-/

import TreeWatch.Proofs.Json.Reading

namespace TreeWatch.Json

/-! ### Inside of an object -/

/-- The outermost of some containers is an object. -/
def Grounded : List Frame → Prop
  | [] => False
  | .list _ :: around => Grounded around
  | .object _ _ :: around => around = [] ∨ Grounded around

/-- The reader is inside of an object, and that is inside of no list. -/
def State.InObject : State → Prop
  | .value around | .listStart around | .listNext _ around | .listAfter _ around
  | .word _ _ around | .string _ around | .number _ around => Grounded around
  | .objectStart around | .objectNext _ around | .key _ _ around | .colon _ _ around
  | .objectAfter _ around => around = [] ∨ Grounded around

/-- What may come of an octet inside of an object: only its closing brace completes a value. -/
def Step.InObject : Step → Prop
  | .more state => state.InObject
  | .done value => ∃ members, value = .object members
  | .doneBefore _ => False
  | .refuse _ | .refuseBefore _ => True

variable {around : List Frame} {state : State} {text piece rest : Bytes} {value : Json}

theorem inObject_within (grounded : Grounded around) (value : Json) :
    (State.within value around).InObject := by
  cases around with
  | nil => cases grounded
  | cons frame around => cases frame <;> exact grounded

theorem inObject_close (inside : around = [] ∨ Grounded around) (members : Entries Json) :
    (State.within (.object members) around).InObject := by
  rcases inside with rfl | grounded
  · exact ⟨members, rfl⟩
  · exact inObject_within grounded _

theorem inObject_begin (grounded : Grounded around) (byte : UInt8) :
    (State.begin around byte).InObject := by
  unfold State.begin
  split
  · exact grounded
  split
  · split
    · exact Or.inr grounded
    · trivial
  split
  · split
    · exact grounded
    · trivial
  split
  · exact grounded
  · split
    · exact grounded
    · trivial

theorem inObject_afterItem (grounded : Grounded around) (items : List Json) (byte : UInt8) :
    (State.afterItem items around byte).InObject := by
  unfold State.afterItem
  split
  · exact grounded
  split
  · exact grounded
  split
  · exact inObject_within grounded _
  · trivial

theorem inObject_afterMember (inside : around = [] ∨ Grounded around) (members : Entries Json)
    (byte : UInt8) : (State.afterMember members around byte).InObject := by
  unfold State.afterMember
  split
  · exact inside
  split
  · exact inside
  split
  · exact inObject_close inside members
  · trivial

theorem inObject_afterEnded (grounded : Grounded around) (value : Json) (byte : UInt8) :
    (State.afterEnded value around byte).InObject := by
  cases around with
  | nil => cases grounded
  | cons frame around =>
    cases frame with
    | list items =>
      have outer : Grounded around := grounded
      exact inObject_afterItem outer (value :: items) byte
    | object members name =>
      have outer : around = [] ∨ Grounded around := grounded
      exact inObject_afterMember outer (members.put name value) byte

theorem State.InObject.step (inside : state.InObject) (byte : UInt8) :
    (state.step byte).InObject := by
  cases state with
  | value around =>
    rw [State.step]
    split
    · exact inside
    · exact inObject_begin inside byte
  | listStart around =>
    rw [State.step]
    split
    · exact inside
    split
    · exact inObject_within inside _
    · have item : Grounded (.list [] :: around) := inside
      exact inObject_begin item byte
  | listNext items around =>
    rw [State.step]
    split
    · exact inside
    split
    · trivial
    · have item : Grounded (.list items :: around) := inside
      exact inObject_begin item byte
  | listAfter items around => exact inObject_afterItem inside items byte
  | objectStart around =>
    rw [State.step]
    split
    · exact inside
    split
    · exact inObject_close inside []
    split
    · exact inside
    · trivial
  | objectNext members around =>
    rw [State.step]
    split
    · exact inside
    split
    · trivial
    split
    · exact inside
    · trivial
  | key scan members around =>
    rw [State.step]
    split
    · exact inside
    · exact inside
    · trivial
    · trivial
  | colon name members around =>
    rw [State.step]
    split
    · exact inside
    split
    · exact inside
    · trivial
  | objectAfter members around => exact inObject_afterMember inside members byte
  | word lacking meaning around =>
    match lacking with
    | [] => trivial
    | [last] =>
      rw [State.step]
      split
      · exact inObject_within inside meaning
      · trivial
    | next :: second :: lacking =>
      rw [State.step]
      · split
        · exact inside
        · trivial
      · nofun
  | string scan around =>
    rw [State.step]
    split
    · exact inside
    · exact inObject_within inside _
    · trivial
    · trivial
  | number scan around =>
    rw [State.step]
    split
    · exact inside
    · trivial
    · split
      · exact inObject_afterEnded inside _ byte
      · trivial

/-! ### The object a text begins with -/

/-- Inside of an object a value is complete when the object is, and this takes an octet. -/
theorem object_of_advance (inside : state.InObject)
    (complete : advance state text = .complete value rest) :
    (∃ members, value = .object members) ∧ ∃ piece, piece ≠ [] ∧ text = piece ++ rest := by
  induction text generalizing state with
  | nil => cases complete
  | cons byte text inductionHypothesis =>
    have next := inside.step byte
    rw [advance] at complete
    cases step : state.step byte with
    | more after =>
      rw [step] at complete next
      obtain ⟨object, piece, _, rfl⟩ := inductionHypothesis next complete
      exact ⟨object, byte :: piece, List.cons_ne_nil _ _, rfl⟩
    | done found =>
      rw [step] at complete next
      obtain ⟨rfl, rfl⟩ := Progress.complete.inj complete
      exact ⟨next, [byte], List.cons_ne_nil _ _, rfl⟩
    | doneBefore found =>
      rw [step] at next
      cases next
    | refuse cause =>
      rw [step] at complete
      cases complete
    | refuseBefore cause =>
      rw [step] at complete
      cases complete

theorem inObject_of_advance {after : State} (inside : state.InObject)
    (stopped : advance state text = .partly after) : after.InObject := by
  induction text generalizing state with
  | nil => exact Progress.partly.inj stopped ▸ inside
  | cons byte text inductionHypothesis =>
    have next := inside.step byte
    rw [advance] at stopped
    cases step : state.step byte with
    | more between =>
      rw [step] at stopped next
      exact inductionHypothesis next stopped
    | _ =>
      rw [step] at stopped
      cases stopped

/-- What stands behind an object has no part in it. -/
theorem advance_piece (inside : state.InObject)
    (complete : advance state (piece ++ rest) = .complete value rest) :
    advance state piece = .complete value [] := by
  rw [advance_append] at complete
  cases progress : advance state piece with
  | complete found after =>
    rw [progress] at complete
    obtain ⟨rfl, nothing⟩ := Progress.complete.inj complete
    rw [List.append_left_eq_self.mp nothing]
  | partly between =>
    rw [progress] at complete
    obtain ⟨_, needed, some, same⟩ :=
      object_of_advance (inObject_of_advance inside progress) complete
    exact absurd (List.self_eq_append_left.mp same) some
  | failed fault =>
    rw [progress] at complete
    cases complete

/-- Behind its opening brace the reader is inside of the object. -/
theorem advance_brace (text : Bytes) :
    advance (.value []) (0x7b :: text) = advance (.objectStart []) text := rfl

theorem object_of_readFirst (read : readFirst (0x7b :: text) = .ok (value, rest)) :
    ∃ members, value = .object members := by
  have start : (State.objectStart []).InObject := Or.inl rfl
  unfold readFirst at read
  cases progress : advance (.value []) (0x7b :: text) with
  | complete found after =>
    rw [progress] at read
    obtain ⟨rfl, _⟩ := Prod.mk.inj (Except.ok.inj read)
    exact (object_of_advance start progress).1
  | failed fault =>
    rw [progress] at read
    cases read
  | partly state =>
    -- Only a number outside of all containers may end with the text.
    rw [progress] at read
    cases finished : state.finish with
    | ok found =>
      obtain ⟨scan, _, rfl, _⟩ := number_of_finish finished
      exact (inObject_of_advance start progress).elim
    | error cause =>
      simp only [finished] at read
      cases read

/-- The octets of an object up to its closing brace are enough to read it. -/
theorem read_of_readFirst (first : readFirst (0x7b :: text) = .ok (value, rest)) :
    ∃ piece, text = piece ++ rest ∧ read (0x7b :: piece) = .ok value := by
  have start : (State.objectStart []).InObject := Or.inl rfl
  obtain ⟨members, rfl⟩ := object_of_readFirst first
  have whole := advance_of_readFirst first nofun
  rw [advance_brace] at whole
  obtain ⟨_, piece, _, rfl⟩ := object_of_advance start whole
  refine ⟨piece, rfl, read_eq_ok_iff.mpr ⟨[], ?_, rfl⟩⟩
  rw [readFirst, advance_brace, advance_piece start whole]

/-- A text of which some piece holds an object begins with that object. -/
theorem readFirst_of_read (early : 0x7b :: piece <+: text) (holds : read (0x7b :: piece) = .ok value) :
    ∃ rest, readFirst text = .ok (value, rest) := by
  obtain ⟨more, rfl⟩ := early
  obtain ⟨rest, first, _⟩ := read_eq_ok_iff.mp holds
  obtain ⟨members, rfl⟩ := object_of_readFirst first
  exact ⟨rest ++ more, readFirst_append first nofun more⟩

end TreeWatch.Json
