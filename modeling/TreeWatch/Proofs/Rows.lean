/-
This file says which table a history is. A history extends each of its rows by itself and
remembers one time. After some snapshots were recorded this is the table with a row for each
entity and a column for each snapshot (`table`): recording one more, however the rows came about,
adds a column (`apply_newest`) or, if the last column is newer, nothing (`apply_older`).
-/

import TreeWatch.History
import TreeWatch.Proofs.Tables

namespace TreeWatch.History

/-- The samples one entity has in some snapshots, unknown where it is absent. -/
def samples (snapshots : List Snapshot) (entity : EntityId) : Series :=
  snapshots.map fun snapshot =>
    ⟨snapshot.timestamp, (snapshot.statuses.get? entity).getD .unknown⟩

theorem samples_append (first second : List Snapshot) (entity : EntityId) :
    samples (first ++ second) entity = samples first entity ++ samples second entity :=
  List.map_append

/-- The rows of some entities, with a column for each snapshot. -/
def rows (entities : List EntityId) (snapshots : List Snapshot) : SortedMap Series :=
  (SortedMap.ofList (entities.map (·, ()))).mapWithKey fun entity _ => samples snapshots entity

/-- A history of some entities after some snapshots were recorded. -/
def table (entities : List EntityId) (recorded : List Snapshot) : History :=
  tracking (rows entities recorded) (recorded.getLast?.map (·.timestamp))

variable (entities : List EntityId) {recorded : List Snapshot} {snapshot : Snapshot}

theorem get?_rows (snapshots : List Snapshot) (entity : EntityId) :
    (rows entities snapshots).get? entity =
      if entity ∈ entities then some (samples snapshots entity) else none := by
  rw [rows, SortedMap.get?_mapWithKey, SortedMap.get?_ofList_const]
  split <;> rfl

/-! ### What is done to a table -/

/-- Every row is empty at first. -/
theorem track_eq_table :
    ∃ notices, uninitialized.track entities = .ok (table entities [], notices) := by
  have empty : SortedMap.ofList (entities.map fun entity => (entity, ([] : Series))) =
      rows entities [] := by
    refine SortedMap.ext_get? fun entity => ?_
    rw [SortedMap.get?_ofList_const, get?_rows]
    rfl
  rw [track, empty]
  exact ⟨_, rfl⟩

/-- Extending each row by itself adds a column. -/
theorem extend_rows (snapshots : List Snapshot) (snapshot : Snapshot) :
    extend (rows entities snapshots) snapshot = rows entities (snapshots ++ [snapshot]) := by
  refine SortedMap.ext_get? fun entity => ?_
  rw [extend, SortedMap.get?_mapWithKey, get?_rows, get?_rows, samples_append]
  split <;> rfl

theorem apply_newest (newest : ∀ last ∈ recorded.getLast?, last.timestamp ≤ snapshot.timestamp) :
    (table entities recorded).apply snapshot =
      .ok ⟨table entities (recorded ++ [snapshot]), true, []⟩ := by
  have upToDate : ((recorded.getLast?.map (·.timestamp)).filter
      fun last => snapshot.timestamp < last) = none := by
    rw [Option.filter_eq_none_iff]
    intro time found
    obtain ⟨last, ends, rfl⟩ := Option.map_eq_some_iff.mp found
    simpa using newest last ends
  simp only [table, apply, upToDate, extend_rows, List.getLast?_concat, Option.map_some]

theorem apply_older (older : ¬ ∀ last ∈ recorded.getLast?, last.timestamp ≤ snapshot.timestamp) :
    ∃ notices, (table entities recorded).apply snapshot =
      .ok ⟨table entities recorded, false, notices⟩ := by
  obtain ⟨last, is, below⟩ : ∃ last ∈ recorded.getLast?, snapshot.timestamp < last.timestamp := by
    simpa using older
  have outdated : ((recorded.getLast?.map (·.timestamp)).filter
      fun last => snapshot.timestamp < last) = some last.timestamp := by
    rw [Option.mem_def.mp is, Option.map_some]
    simp [below]
  simp only [table, apply, outdated]
  exact ⟨_, rfl⟩

/-! ### What is seen of a table -/

variable (recorded)

theorem keys_entities_table :
    (table entities recorded).entities.keys = (SortedMap.ofList (entities.map (·, ()))).keys := by
  rw [History.entities, table, all, rows, SortedMap.keys_mapWithKey, SortedMap.keys_mapWithKey]

theorem mem_keys_entities_table (entity : EntityId) :
    entity ∈ (table entities recorded).entities.keys ↔ entity ∈ entities := by
  rw [keys_entities_table, SortedMap.mem_keys_ofList_const]

theorem get?_current_table (snapshot : Snapshot) (entity : EntityId) :
    ((table entities recorded).current snapshot).get? entity =
      if entity ∈ entities then some ((snapshot.statuses.get? entity).getD .unknown) else none := by
  rw [current, History.entities, table, all, SortedMap.get?_mapWithKey, SortedMap.get?_mapWithKey,
    get?_rows]
  split <;> rfl

theorem series?_table (entity : EntityId) :
    (table entities recorded).series? entity =
      if entity ∈ entities then some (samples recorded entity) else none :=
  get?_rows entities recorded entity

/-- The first row tells the length of all. -/
theorem length_table {entity : EntityId} (tracked : entity ∈ entities) :
    (table entities recorded).length = recorded.length := by
  have row : entity ∈ (SortedMap.ofList (entities.map (·, ()))).keys :=
    (SortedMap.mem_keys_ofList_const entities () entity).mpr tracked
  rw [SortedMap.keys] at row
  cases entries : (SortedMap.ofList (entities.map (·, ()))).entries with
  | nil =>
    rw [entries] at row
    cases row
  | cons first rest => simp [length, table, all, rows, SortedMap.values, SortedMap.mapWithKey,
      entries, samples]

end TreeWatch.History
