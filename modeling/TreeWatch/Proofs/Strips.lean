/-
This file proves that the strips of a history slide. A history is brought snapshots one after the
other and shown whenever it records one. After each paint the strip of every entity holds the
newest recorded statuses of that entity, oldest first, as many as there are up to the width
(`StripOf`). A paint depends on the recorded snapshots alone (`lines_all`), and these are the
columns of the history, so snapshots that come out of order leave no trace (`watch_eq`).
-/

import TreeWatch.Proofs.Columns
import TreeWatch.Proofs.Printing

namespace TreeWatch

namespace Console

open History (columns samples)

/-! ### One strip -/

/-- The letter of a status is a dot if it is unknown, the first letter of the state whose colour
it is, whatever the case of letters, and else a question mark. -/
inductive Letter : Status → Char → Prop where
  | unknown : Letter .unknown '.'
  | state {colour : String} {letter : Char} (state : NodeState)
      (colours : colour.toList.map Char.toLower = state.color.toList.map Char.toLower)
      (first : state.name.toList.head? = some letter) : Letter (.value colour) letter
  | other {colour : String} (strange : ∀ state : NodeState,
      colour.toList.map Char.toLower ≠ state.color.toList.map Char.toLower) :
      Letter (.value colour) '?'

theorem letter_glyph (status : Status) : Letter status (glyph status) := by
  cases status with
  | unknown => exact .unknown
  | value colour =>
    rw [glyph]
    cases known : NodeState.ofColor? colour with
    | none =>
      refine .other fun state colours => ?_
      rw [NodeState.ofColor?_eq_some_iff.mpr colours] at known
      cases known
    | some state =>
      refine .state state (NodeState.ofColor?_eq_some_iff.mp known) ?_
      cases state <;> decide

/-- The line that shows an entity after some snapshots were recorded. Behind two spaces, the entity,
filled up with spaces to twelve characters, and one space it has a letter for each of the newest
snapshots. The slice of them begins where the older ones end. -/
def StripOf (width : Nat) (recorded : List Snapshot) (entity : EntityId) (written : String) : Prop :=
  ∃ filling older newest letters, recorded = older ++ newest ∧
    older.length = recorded.length - width ∧ newest.length = min recorded.length width ∧
    (∀ char ∈ filling, char = ' ') ∧ entity.length + filling.length = max entity.length 12 ∧
    List.Forall₂ (fun snapshot : Snapshot => Letter ((snapshot.statuses.get? entity).getD .unknown))
      newest letters ∧
    written.toList = [' ', ' '] ++ entity.toList ++ filling ++ [' '] ++ letters

theorem toList_strip (width : Nat) (recorded : List Snapshot) (entity : EntityId) :
    (strip width (samples recorded entity)).toList =
      (recorded.drop (recorded.length - width)).map
        fun snapshot => glyph ((snapshot.statuses.get? entity).getD .unknown) := by
  rw [strip, String.toList_ofList, samples, List.length_map, ← List.map_drop, List.map_map]
  rfl

theorem length_strip (width : Nat) (series : Series) :
    (strip width series).length = min series.length width := by
  rw [strip, String.length_ofList, List.length_map, List.length_drop]
  omega

theorem stripOf_line (width : Nat) (recorded : List Snapshot) (entity : EntityId) :
    StripOf width recorded entity (line entity (strip width (samples recorded entity))) := by
  refine ⟨List.replicate (12 - entity.length) ' ', recorded.take (recorded.length - width),
    recorded.drop (recorded.length - width), _, (List.take_append_drop _ _).symm, ?_, ?_,
    fun char member => (List.mem_replicate.mp member).2, ?_,
    List.forall₂_map_right_iff.mpr (List.forall₂_same.mpr fun snapshot _ => letter_glyph _), ?_⟩
  · rw [List.length_take]
    omega
  · rw [List.length_drop]
    omega
  · rw [List.length_replicate]
    omega
  · rw [← toList_strip]
    simp [line, padded]

/-! ### One paint -/

/-- The lines of a paint of the histories. -/
theorem lines_all (width : Nat) (entities : List EntityId) (recorded : List Snapshot) :
    lines width (.history (History.table entities recorded).all) =
      (SortedMap.ofList (entities.map (·, ()))).keys.map fun entity =>
        line entity (strip width (samples recorded entity)) := by
  rw [lines, History.table, History.all, History.rows, SortedMap.mapWithKey, SortedMap.keys,
    List.map_map, List.map_map]
  rfl

/-- After each of the recorded snapshots the strips of all entities were painted. -/
def Slides (width : Nat) (entities : List EntityId) (recorded : List Snapshot)
    (paints : List (List String)) : Prop :=
  paints.length = recorded.length ∧ ∀ count written, paints[count]? = some written →
    List.Forall₂ (StripOf width (recorded.take (count + 1))) entities written

theorem Slides.concat {width : Nat} {entities : List EntityId} {recorded : List Snapshot}
    {paints : List (List String)} (slides : Slides width entities recorded paints)
    (snapshot : Snapshot) :
    Slides width entities (recorded ++ [snapshot]) (paints ++ [entities.map fun entity =>
      line entity (strip width (samples (recorded ++ [snapshot]) entity))]) := by
  obtain ⟨same, each⟩ := slides
  refine ⟨by rw [List.length_append, List.length_append, same]; rfl, fun count written found => ?_⟩
  rcases Nat.lt_trichotomy count paints.length with before | rfl | behind
  · rw [List.getElem?_append_left before] at found
    rw [List.take_append_of_le_length (by omega)]
    exact each count written found
  · rw [List.getElem?_concat_length] at found
    obtain rfl := Option.some.inj found
    rw [same, List.take_of_length_le (by simp), List.forall₂_map_right_iff]
    exact List.forall₂_same.mpr fun entity _ => stripOf_line width _ entity
  · rw [List.getElem?_eq_none (by simp; omega)] at found
    cases found

/-! ### A history that is watched -/

/-- A history and the console it is shown on. -/
structure Watched where
  history : History
  console : Sink := {}

/-- Brings a snapshot to the history, and shows all series if it was recorded. -/
def Watched.bring (width : Nat) (watched : Watched) (snapshot : Snapshot) : Watched :=
  match watched.history.apply snapshot with
  | .ok applied =>
    { history := applied.history
      console := if applied.recorded then
          (watched.console.paint width (.history applied.history.all)).1
        else watched.console }
  | .error _ => watched

/-- A history of some entities after it was brought some snapshots. -/
def watch (width : Nat) (entities : List EntityId) (snapshots : List Snapshot) : Watched :=
  snapshots.foldl (Watched.bring width) { history := History.run [.track entities] }

theorem watch_concat (width : Nat) (entities : List EntityId) (snapshots : List Snapshot)
    (snapshot : Snapshot) : watch width entities (snapshots ++ [snapshot]) =
      (watch width entities snapshots).bring width snapshot := by
  rw [watch, List.foldl_append]
  rfl

/-- The history has the columns of what it was brought, and the console has shown each of them. -/
theorem watch_eq (width : Nat) (entities : List EntityId) (snapshots : List Snapshot) :
    ∃ paints, watch width entities snapshots =
        { history := .table entities (columns snapshots)
          console := { shown := closed paints.flatten } } ∧
      Slides width (SortedMap.ofList (entities.map (·, ()))).keys (columns snapshots) paints := by
  induction snapshots using List.reverseRecOn with
  | nil =>
    have fresh : History.run [.track entities] = .table entities (columns []) := History.run_named rfl
    exact ⟨[], by rw [watch, List.foldl_nil, fresh]; rfl, rfl, nofun⟩
  | append_singleton snapshots snapshot inductionHypothesis =>
    obtain ⟨paints, before, slides⟩ := inductionHypothesis
    obtain ⟨notices, applied⟩ := History.apply_columns entities snapshots snapshot
    rw [watch_concat, before, Watched.bring, applied, History.columns_concat]
    by_cases newest : snapshot.Newest snapshots
    · rw [if_pos newest, decide_eq_true newest]
      refine ⟨_, ?_, slides.concat snapshot⟩
      simp only [if_true]
      rw [Sink.shown_paint rfl, lines_all, List.flatten_append, List.flatten_singleton]
      simp [closed]
    · rw [if_neg newest, decide_eq_false newest, List.append_nil]
      exact ⟨paints, rfl, slides⟩

/-- After each snapshot it records, a history is shown with the newest statuses of every entity,
oldest first and as many as the width allows. All strips of a paint have one length, and the slice
they are taken from begins inside of the series. -/
theorem strips_slide (width : Nat) (entities : List EntityId) (snapshots : List Snapshot) :
    let watched := watch width entities snapshots
    watched.history = .table entities (columns snapshots) ∧
    (∀ entity, entity ∈ watched.history.entities.keys ↔ entity ∈ entities) ∧
    (∃ paints, watched.console.shown = closed paints.flatten ∧
      Slides width watched.history.entities.keys (columns snapshots) paints) ∧
    ∀ entity series, watched.history.series? entity = some series →
      series.length - width ≤ series.length ∧
        (strip width series).length = min (columns snapshots).length width := by
  obtain ⟨paints, shown, slides⟩ := watch_eq width entities snapshots
  intro watched
  rw [show watched = _ from shown]
  refine ⟨rfl, History.mem_keys_entities_table entities _, ⟨paints, rfl, ?_⟩,
    fun entity series found => ⟨Nat.sub_le _ _, ?_⟩⟩
  · rw [History.keys_entities_table]
    exact slides
  · rw [History.series?_table] at found
    split at found
    · obtain rfl := Option.some.inj found
      rw [length_strip, samples, List.length_map]
    · cases found

/-- The snapshot of time 4 comes late, so it is neither recorded nor shown. -/
theorem strips_slide_late :
    let idle : Snapshot := ⟨6, .ofList [("7", .value "#9999ff")]⟩
    let strange : Snapshot := ⟨6, .ofList [("7", .value "teal")]⟩
    let watched := watch 2 ["7"] [⟨5, .empty⟩, idle, ⟨4, .empty⟩, strange]
    watched.console.shown = "  7            .\n  7            .I\n  7            I?\n" ∧
      ∃ paints, watched.console.shown = closed paints.flatten ∧
        Slides 2 ["7"] [⟨5, .empty⟩, idle, strange] paints := by
  intro idle strange watched
  obtain ⟨_, _, slides, _⟩ := strips_slide 2 ["7"] [⟨5, .empty⟩, idle, ⟨4, .empty⟩, strange]
  exact ⟨by decide, slides⟩

end Console

end TreeWatch
