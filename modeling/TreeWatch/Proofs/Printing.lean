/-
This file proves what a console shows that takes all it is given: the lines of a paint, each
closed by a line break (`shown_paint`). A line is not escaped, so it is one line only if neither
the entity nor what is said of it has a line break of its own. Counting line breaks shows that
nothing makes up for one: the text of a paint has one line for each entity exactly if neither
an entity nor a status that is spelled out contains one (`lineEach_printed_iff`).
-/

import Mathlib.Algebra.GroupWithZero.Nat
import Mathlib.Data.List.Forall2
import TreeWatch.Console
import TreeWatch.Proofs.Resync
import TreeWatch.Proofs.Rows

namespace TreeWatch

/-- The text has no line break. -/
def Unbroken (text : String) : Prop := '\n' ∉ text.toList

instance : DecidablePred Unbroken := fun text => inferInstanceAs (Decidable ('\n' ∉ text.toList))

/-- A text is the colour of a state if it is written like it, whatever the case of letters. -/
theorem NodeState.ofColor?_eq_some_iff {text : String} {state : NodeState} :
    ofColor? text = some state ↔
      text.toList.map Char.toLower = state.color.toList.map Char.toLower := by
  constructor
  · intro known
    have found := List.find?_some known
    exact (eq_of_beq found).symm
  · intro alike
    simp only [ofColor?, alike]
    cases state <;> decide

namespace Console

/-! ### Lines of a text -/

/-- The text of some lines, each with a line break behind it. -/
def closed (lines : List String) : String := String.join (lines.map (· ++ "\n"))

theorem toList_closed (lines : List String) :
    (closed lines).toList = lines.flatMap fun line => line.toList ++ ['\n'] := by
  simp [closed, String.toList_join, List.flatMap_map]

/-- The text consists of these lines: each ends at the first line break behind it. -/
def SplitsInto (text : String) (lines : List String) : Prop :=
  text = closed lines ∧ ∀ line ∈ lines, Unbroken line

/-- The text has one line for each entity, in order, and each line begins with its entity. -/
def LineEach (entities : List EntityId) (text : String) : Prop :=
  ∃ lines, SplitsInto text lines ∧
    List.Forall₂ (fun entity written => ∃ content, written = line entity content) entities lines

variable {lines : List String} {entity content : String}

/-- The number of line breaks in a text of lines. -/
theorem count_closed (lines : List String) : (closed lines).toList.count '\n' =
    lines.length + (lines.map fun line => line.toList.count '\n').sum := by
  induction lines with
  | nil => rfl
  | cons line lines inductionHypothesis =>
    rw [toList_closed] at inductionHypothesis ⊢
    rw [List.flatMap_cons, List.count_append, List.count_append, inductionHypothesis,
      List.count_singleton_self, List.length_cons, List.map_cons, List.sum_cons]
    omega

/-- There are no more line breaks than lines only if no line has one of its own. -/
theorem count_closed_eq_length_iff :
    (closed lines).toList.count '\n' = lines.length ↔ ∀ line ∈ lines, Unbroken line := by
  rw [count_closed, Nat.add_eq_left, List.sum_eq_zero_iff_forall_eq_nat, List.forall_mem_map]
  exact forall₂_congr fun line _ => List.count_eq_zero

/-- The line of an entity is one line if the entity and what is said of it are. -/
theorem unbroken_line_iff : Unbroken (line entity content) ↔ Unbroken entity ∧ Unbroken content := by
  simp [Unbroken, line, padded, not_or]

/-- A text of one line for each entity is that many lines if none of them is broken. -/
theorem lineEach_closed_iff {α : Type} (entries : Entries α) (content : α → String) :
    LineEach (entries.map Prod.fst) (closed (entries.map fun entry => line entry.1 (content entry.2)))
      ↔ ∀ entry ∈ entries, Unbroken entry.1 ∧ Unbroken (content entry.2) := by
  have each : (∀ written ∈ entries.map fun entry => line entry.1 (content entry.2),
      Unbroken written) ↔ ∀ entry ∈ entries, Unbroken entry.1 ∧ Unbroken (content entry.2) := by
    simp only [List.forall_mem_map, unbroken_line_iff]
  rw [← each]
  constructor
  · rintro ⟨lines, ⟨same, unbroken⟩, belong⟩
    rw [← count_closed_eq_length_iff, same, count_closed_eq_length_iff.mpr unbroken,
      ← belong.length_eq, List.length_map, List.length_map]
  · intro unbroken
    refine ⟨_, ⟨rfl, unbroken⟩, ?_⟩
    rw [List.forall₂_map_left_iff, List.forall₂_map_right_iff]
    exact List.forall₂_same.mpr fun entry _ => ⟨_, rfl⟩

/-! ### What is said of an entity -/

/-- The colour of a state has no line break, in whatever letters it is written. -/
theorem unbroken_of_ofColor? {text : String} {state : NodeState}
    (known : NodeState.ofColor? text = some state) : Unbroken text := by
  intro broken
  have inside : '\n'.toLower ∈ state.color.toList.map Char.toLower :=
    NodeState.ofColor?_eq_some_iff.mp known ▸ List.mem_map_of_mem broken
  revert inside
  cases state <;> decide

/-- A known colour is shown by a name, any other status is spelled out. -/
theorem unbroken_label_iff (status : Status) : Unbroken (label status) ↔ Unbroken status.label := by
  unfold label
  cases known : NodeState.ofColor? status.color with
  | none => exact Iff.rfl
  | some state =>
    have name : Unbroken state.name := by cases state <;> decide
    refine iff_of_true name ?_
    cases status with
    | unknown => decide
    | value text => exact unbroken_of_ofColor? known

theorem glyph_ne_newline (status : Status) : glyph status ≠ '\n' := by
  cases status with
  | unknown => decide
  | value colour =>
    rw [glyph]
    cases NodeState.ofColor? colour with
    | none => decide
    | some state => cases state <;> decide

theorem unbroken_strip (width : Nat) (series : Series) : Unbroken (strip width series) := by
  rw [Unbroken, strip, String.toList_ofList, List.mem_map]
  rintro ⟨sample, _, newline⟩
  exact glyph_ne_newline sample.status newline

end Console

namespace Sink

theorem write_unbounded {sink : Sink} (unbounded : sink.capacity = none) (piece : String) :
    sink.write piece = ({ sink with shown := sink.shown ++ piece }, true) := by
  simp only [write, unbounded, if_true]

/-- A sink without bounds takes all lines. -/
theorem writeLines_unbounded {sink : Sink} (unbounded : sink.capacity = none)
    (lines : List String) : sink.writeLines lines =
      ({ sink with shown := sink.shown ++ Console.closed lines }, true) := by
  induction lines generalizing sink with
  | nil =>
    rw [writeLines, Console.closed, List.map_nil, String.join_nil, String.append_empty]
  | cons line lines inductionHypothesis =>
    have rest := @inductionHypothesis { sink with shown := sink.shown ++ line ++ "\n" } unbounded
    simp only [writeLines, write_unbounded unbounded,
      @write_unbounded { sink with shown := sink.shown ++ line } unbounded, rest]
    rw [Console.closed, Console.closed, List.map_cons, String.join_cons, String.append_assoc,
      String.append_assoc, String.append_assoc]

/-- What such a sink shows after a paint. -/
theorem shown_paint {sink : Sink} (unbounded : sink.capacity = none) (width : Nat)
    (paint : Paint) : (sink.paint width paint).1 =
      { sink with shown := sink.shown ++ Console.closed (Console.lines width paint) } := by
  rw [Sink.paint, writeLines_unbounded unbounded]

end Sink

namespace Console

/-- The text that a paint puts on an empty console without bounds. -/
def printed (width : Nat) (paint : Paint) : String := (({} : Sink).paint width paint).1.shown

theorem printed_eq (width : Nat) (paint : Paint) : printed width paint = closed (lines width paint) := by
  rw [printed, Sink.shown_paint rfl]
  exact String.empty_append

/-! ### What a stream can bring -/

/-- Every table of statuses is what the entities it names have in some snapshot. -/
theorem current_table (recorded : List Snapshot) (timestamp : Int64)
    (statuses : SortedMap Status) :
    (History.table statuses.keys recorded).current ⟨timestamp, statuses⟩ = statuses := by
  refine SortedMap.ext_get? fun entity => ?_
  rw [History.get?_current_table]
  by_cases tracked : entity ∈ statuses.keys
  · obtain ⟨status, found⟩ := SortedMap.mem_keys_iff.mp tracked
    rw [if_pos tracked, found, Option.getD_some]
  · rw [if_neg tracked, SortedMap.get?_eq_none tracked]

/-- A paint of the statuses has one line for each entity exactly if no entity has a line break and
no status, spelled out, has one; a paint of the histories exactly if no entity has one. Every
table of statuses can come out of a stream, unless an entity is named like the time. -/
theorem lineEach_printed_iff (width : Nat) :
    (∀ statuses : SortedMap Status, LineEach statuses.keys (printed width (.current statuses)) ↔
      ∀ entry ∈ statuses.entries, Unbroken entry.1 ∧ Unbroken entry.2.label) ∧
    (∀ series : SortedMap Series, LineEach series.keys (printed width (.history series)) ↔
      ∀ entity ∈ series.keys, Unbroken entity) ∧
    ∀ statuses : SortedMap Status, Snapshot.timestampKey ∉ statuses.keys →
      ∃ stream decoded entities, Stream.decodeLatest stream = .ok decoded ∧
        (History.table entities []).current decoded.snapshot = statuses := by
  refine ⟨fun statuses => ?_, fun series => ?_, fun statuses unnamed => ?_⟩
  · rw [printed_eq, lines, SortedMap.keys, lineEach_closed_iff]
    simp only [unbroken_label_iff]
  · rw [printed_eq, lines, SortedMap.keys, lineEach_closed_iff, List.forall_mem_map]
    exact forall₂_congr fun entry _ => and_iff_left (unbroken_strip width entry.2)
  · exact ⟨_, _, _, Stream.decodeLatest_wire_eq_ok_iff.mpr unnamed, current_table [] 0 statuses⟩

/-- A status with a line break, as it arrives: its one entity is shown on two lines. -/
theorem lineEach_printed_iff_broken_status :
    let stream := Utf8.encode "\x7b\"timestamp\":1,\"A\":\"x\\ny\"\x7d"
    let snapshot : Snapshot := { timestamp := 1, statuses := .ofList [("A", .value "x\ny")] }
    let shown := (History.table ["A"] []).current snapshot
    Stream.decodeLatest stream = .ok ⟨snapshot, 0⟩ ∧ Snapshot.timestampKey ∉ shown.keys ∧
      shown.keys = ["A"] ∧ printed 10 (.current shown) = "  A            x\ny\n" ∧
      ¬ LineEach ["A"] (printed 10 (.current shown)) := by
  intro stream snapshot shown
  have broken : ¬ ∀ entry ∈ shown.entries, Unbroken entry.1 ∧ Unbroken entry.2.label := by decide
  exact ⟨rfl, by decide, rfl, by decide,
    mt ((lineEach_printed_iff 10).1 shown).mp broken⟩

end Console

end TreeWatch
