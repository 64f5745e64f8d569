/-
This file proves how the members of an object are read: a key with its colon
(`leads_key`), and after it a text, `null` or an integer. Each leaves the reader settled
between two members, where only a comma or the closing brace may follow. A number alone
does not show its end, so the reader is then still inside the digits; what it takes a
comma or a brace for is the same (`settled_number`).
-/

import TreeWatch.Proofs.Json.Integers
import TreeWatch.Proofs.Json.Quoting

namespace TreeWatch.Json

variable {members : Entries Json} {around : List Frame}

/-! ### Quoted texts -/

section Quoted

variable (wrap : TextScan → State) (waiting : ∀ scan, (wrap scan).Open)
  (goes : ∀ scan byte next, scan.step byte = .more next → (wrap scan).step byte = .more (wrap next))

include waiting goes

/-- The reader follows the scan of a text it is inside of. -/
theorem leads_follow {scan after : TextScan} {bytes : Bytes}
    (followed : scan.follow bytes = some after) : Leads (wrap scan) bytes (wrap after) := by
  induction bytes generalizing scan with
  | nil =>
    obtain rfl := Option.some.inj followed
    exact .stay (waiting scan)
  | cons byte rest inductionHypothesis =>
    rw [TextScan.follow] at followed
    cases step : scan.step byte with
    | more next =>
      simp only [step] at followed
      exact .step (waiting scan) (goes scan byte next step) (inductionHypothesis followed)
    | _ =>
      simp only [step] at followed
      cases followed

theorem leads_quote {before after : State} {text : String} (ready : before.Open)
    (opening : before.step 0x22 = .more (wrap {}))
    (closing : ∀ scan, scan.step 0x22 = .done text → (wrap scan).step 0x22 = .more after)
    (arrived : after.Open) : Leads before (Utf8.encode (quote text)) after := by
  obtain ⟨scan, followed, done⟩ := TextScan.step_quotedBody text
  rw [encode_quote]
  exact .step ready opening ((leads_follow wrap waiting goes followed).trans
    (.single (waiting scan) (closing scan done) arrived))

end Quoted

theorem leads_key {before : State} (ready : before.Open)
    (opening : before.step 0x22 = .more (.key {} members around)) (name : String) :
    Leads before (Utf8.encode (quote name) ++ [0x3a])
      (.value (.object members name :: around)) := by
  have named : Leads before (Utf8.encode (quote name)) (.colon name members around) := by
    refine leads_quote (.key · members around) (fun scan => ⟨_, rfl, rfl⟩) ?_ ready
      opening ?_ ⟨_, rfl, rfl⟩
    · intro scan byte next step
      rw [State.step, step]
    · intro scan step
      rw [State.step, step]
  exact named.trans (.single ⟨_, rfl, rfl⟩ rfl ⟨_, rfl, rfl⟩)

theorem leads_string (name text : String) :
    Leads (.value (.object members name :: around)) (Utf8.encode (quote text))
      (.objectAfter (members.put name (.string text)) around) := by
  refine leads_quote (.string · (.object members name :: around)) (fun scan => ⟨_, rfl, rfl⟩) ?_
    ⟨_, rfl, rfl⟩ rfl ?_ ⟨_, rfl, rfl⟩
  · intro scan byte next step
    rw [State.step, step]
  · intro scan step
    rw [State.step, step]
    rfl

theorem leads_null (name : String) :
    Leads (.value (.object members name :: around)) (Utf8.encode "null")
      (.objectAfter (members.put name .null) around) :=
  .step ⟨_, rfl, rfl⟩ rfl (.step ⟨_, rfl, rfl⟩ rfl
    (.step ⟨_, rfl, rfl⟩ rfl (.single ⟨_, rfl, rfl⟩ rfl
      ⟨_, rfl, rfl⟩)))

/-! ### Between two members -/

/-- The reader is between two members: it waits, and takes a comma or the closing brace
the way it does right after the last of these members. -/
structure State.Settled (state : State) (members : Entries Json) (around : List Frame) : Prop where
  waiting : state.Open
  comma : state.step 0x2c = .more (.objectNext members around)
  brace : state.step 0x7d = State.within (.object members) around

theorem settled_objectAfter (members : Entries Json) (around : List Frame) :
    (State.objectAfter members around).Settled members around :=
  ⟨⟨_, rfl, rfl⟩, rfl, rfl⟩

/-- An integer is complete where a comma or a brace follows. -/
theorem settled_number {scan : NumberScan} {name : String} {number : Number}
    (waiting : (State.number scan (.object members name :: around)).Open)
    (digits : scan.part = .zero ∨ scan.part = .whole) (value : scan.value = .ok number) :
    (State.number scan (.object members name :: around)).Settled
      (members.put name (.number number)) around := by
  have ends : ∀ byte, byte = 0x2c ∨ byte = 0x7d → scan.step byte = .ended := by
    intro byte follows
    have part : scan.part.step byte = .ended := by
      rcases digits with equal | equal <;> rcases follows with rfl | rfl <;> rw [equal] <;> rfl
    rw [NumberScan.step, part]
  refine ⟨waiting, ?_, ?_⟩
  · rw [State.step, ends 0x2c (Or.inl rfl)]
    simp only [value]
    rfl
  · rw [State.step, ends 0x7d (Or.inr rfl)]
    simp only [value]
    rfl

theorem leads_int64 (name : String) (value : Int64) :
    ∃ after, Leads (.value (.object members name :: around))
        (Utf8.encode (toString value.toInt)) after ∧
      after.Settled (members.put name (.number (.int value.toInt))) around := by
  obtain ⟨scan, leads, reads, digits⟩ := leads_integer (.object members name)
    around (Int64.minValue_le_toInt value) (Int64.toInt_le value)
  exact ⟨_, leads, settled_number leads.arrived digits reads⟩

end TreeWatch.Json
