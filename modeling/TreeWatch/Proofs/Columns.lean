/-
This file proves that a history is a table, whatever calls it has seen in whatever order.
The entities named first are its rows. Its columns are, in order, those of the snapshots
applied since than which none before was newer, even if that one was not recorded itself.
A history decides by the time of its last column alone; that column is never older than
anything that was applied (`newest_columns`), so nothing of what it refused needs to be
remembered.
-/

import Mathlib.Data.List.Induction
import TreeWatch.Proofs.Recording
import TreeWatch.Proofs.Rows

namespace TreeWatch

namespace History

/-! ### Calls -/

/-- One use of a history. -/
inductive Call where
  | track (entities : List EntityId)
  | apply (snapshot : Snapshot)

/-- The entities that a call names. -/
def Call.entities? : Call → Option (List EntityId)
  | track entities => some entities
  | apply _ => none

/-- The snapshot that a call brings. -/
def Call.snapshot? : Call → Option Snapshot
  | track _ => none
  | apply snapshot => some snapshot

/-- The history after a call. One that is refused changes nothing. -/
def after (history : History) : Call → History
  | .track entities => ((history.track entities).toOption.map Prod.fst).getD history
  | .apply snapshot => ((history.apply snapshot).toOption.map Applied.history).getD history

/-- The history after some calls. -/
def run (calls : List Call) : History := calls.foldl after uninitialized

theorem run_concat (calls : List Call) (call : Call) :
    run (calls ++ [call]) = (run calls).after call := by
  rw [run, List.foldl_append]
  rfl

/-! ### What the calls ask for -/

/-- The entities that are named first. -/
def named? (calls : List Call) : Option (List EntityId) := calls.findSome? Call.entities?

/-- The snapshots that come once the entities are named. -/
def applied : List Call → List Snapshot
  | [] => []
  | .track _ :: rest => rest.filterMap Call.snapshot?
  | .apply _ :: rest => applied rest

theorem named?_concat (calls : List Call) (call : Call) :
    named? (calls ++ [call]) = (named? calls).or call.entities? := by
  rw [named?, List.findSome?_append, ← named?]
  cases call <;> rfl

/-- What comes before the entities are named counts for nothing. -/
theorem applied_append_unnamed {calls : List Call} (unnamed : named? calls = none)
    (more : List Call) : applied (calls ++ more) = applied more := by
  induction calls with
  | nil => rfl
  | cons first rest inductionHypothesis =>
    cases first with
    | track entities => cases unnamed
    | apply snapshot => exact inductionHypothesis unnamed

theorem applied_append {calls : List Call} (named : (named? calls).isSome) (more : List Call) :
    applied (calls ++ more) = applied calls ++ more.filterMap Call.snapshot? := by
  induction calls with
  | nil => cases named
  | cons first rest inductionHypothesis =>
    cases first with
    | track entities => exact List.filterMap_append
    | apply snapshot => exact inductionHypothesis named

theorem named?_append {calls : List Call} {entities : List EntityId}
    (named : named? calls = some entities) (more : List Call) :
    named? (calls ++ more) = some entities := by
  rw [named?, List.findSome?_append, ← named?, named, Option.some_or]

/-! ### Columns -/

/-- Of snapshots that are listed last to first, those than which none before is newer. -/
def leading : List Snapshot → List Snapshot
  | [] => []
  | last :: earlier => if last.Newest earlier then last :: leading earlier else leading earlier

/-- The snapshots than which none before is newer, in order. -/
def columns (snapshots : List Snapshot) : List Snapshot := (leading snapshots.reverse).reverse

variable {snapshot : Snapshot}

theorem columns_concat (snapshots : List Snapshot) (snapshot : Snapshot) :
    columns (snapshots ++ [snapshot]) =
      columns snapshots ++ if snapshot.Newest snapshots then [snapshot] else [] := by
  have same : snapshot.Newest snapshots.reverse ↔ snapshot.Newest snapshots := by
    simp [Snapshot.Newest]
  rw [columns, List.reverse_concat, leading]
  by_cases newest : snapshot.Newest snapshots
  · rw [if_pos (same.mpr newest), if_pos newest, List.reverse_cons, ← columns]
  · rw [if_neg (mt same.mp newest), if_neg newest, List.append_nil, ← columns]

-- The one of time 4 is newer than the one right before it, which was not kept itself.
example : columns [{ timestamp := 5 }, { timestamp := 3 }, { timestamp := 4 },
    { timestamp := 5 }] = [{ timestamp := 5 }, { timestamp := 5 }] := by decide

/-- A snapshot is newest among all before it if it is no older than the last column. -/
theorem newest_columns (snapshots : List Snapshot) :
    (∀ last ∈ (columns snapshots).getLast?, last.timestamp ≤ snapshot.timestamp) ↔
      snapshot.Newest snapshots := by
  induction snapshots using List.reverseRecOn with
  | nil => simp [columns, leading, Snapshot.Newest]
  | append_singleton snapshots last inductionHypothesis =>
    rw [columns_concat]
    exact newest_grown id (fun refused newest => newest.above refused) inductionHypothesis

theorem prefix_columns_append (first second : List Snapshot) :
    columns first <+: columns (first ++ second) := by
  induction second using List.reverseRecOn with
  | nil => exact ⟨[], by rw [List.append_nil, List.append_nil]⟩
  | append_singleton second last inductionHypothesis =>
    rw [← List.append_assoc, columns_concat]
    exact inductionHypothesis.trans (List.prefix_append _ _)

theorem columns_sublist (snapshots : List Snapshot) : (columns snapshots).Sublist snapshots := by
  induction snapshots using List.reverseRecOn with
  | nil => exact .slnil
  | append_singleton snapshots last inductionHypothesis =>
    rw [columns_concat]
    split
    · exact inductionHypothesis.append (.refl _)
    · exact inductionHypothesis.append (List.nil_sublist _)

/-- Times never fall from one column to the next. -/
theorem pairwise_columns (snapshots : List Snapshot) :
    (columns snapshots).Pairwise (·.timestamp ≤ ·.timestamp) := by
  induction snapshots using List.reverseRecOn with
  | nil => exact .nil
  | append_singleton snapshots last inductionHypothesis =>
    rw [columns_concat]
    split
    · next newest =>
      refine List.pairwise_append.mpr ⟨inductionHypothesis, List.pairwise_singleton _ _, ?_⟩
      intro other member only same
      rw [List.mem_singleton.mp same]
      exact newest other ((columns_sublist snapshots).subset member)
    · rw [List.append_nil]
      exact inductionHypothesis

/-! ### The table -/

/-- A history whose last column is as new as all that was applied records as it should. -/
theorem apply_columns (entities : List EntityId) (snapshots : List Snapshot)
    (snapshot : Snapshot) :
    ∃ notices, (table entities (columns snapshots)).apply snapshot =
      .ok ⟨table entities (columns (snapshots ++ [snapshot])),
        decide (snapshot.Newest snapshots), notices⟩ := by
  rw [columns_concat]
  by_cases newest : snapshot.Newest snapshots
  · rw [if_pos newest, decide_eq_true newest]
    exact ⟨[], apply_newest entities ((newest_columns snapshots).mpr newest)⟩
  · rw [if_neg newest, decide_eq_false newest, List.append_nil]
    exact apply_older entities (mt (newest_columns snapshots).mp newest)

theorem run_unnamed {calls : List Call} (unnamed : named? calls = none) :
    run calls = uninitialized := by
  induction calls using List.reverseRecOn with
  | nil => rfl
  | append_singleton calls call inductionHypothesis =>
    rw [named?_concat, Option.or_eq_none_iff] at unnamed
    rw [run_concat, inductionHypothesis unnamed.1]
    cases call with
    | track entities => cases unnamed.2
    | apply snapshot => rfl

theorem run_named {calls : List Call} {entities : List EntityId}
    (named : named? calls = some entities) :
    run calls = table entities (columns (applied calls)) := by
  induction calls using List.reverseRecOn with
  | nil => cases named
  | append_singleton calls call inductionHypothesis =>
    rw [run_concat]
    cases before : named? calls with
    -- All calls so far were refused, and this one names the entities.
    | none =>
      rw [named?_concat, before, Option.none_or] at named
      cases call with
      | track others =>
        cases named
        obtain ⟨notices, done⟩ := track_eq_table entities
        rw [run_unnamed before, applied_append_unnamed before, after, done]
        rfl
      | apply snapshot => cases named
    | some others =>
      rw [named?_append before] at named
      cases named
      rw [inductionHypothesis before, applied_append (by rw [before]; rfl)]
      cases call with
      | track others => rw [List.filterMap_cons_none rfl, List.filterMap_nil, List.append_nil]; rfl
      | apply snapshot =>
        obtain ⟨notices, done⟩ := apply_columns entities (applied calls) snapshot
        rw [after, done]
        rfl

theorem mem_keys_run (calls : List Call) (entity : EntityId) :
    entity ∈ (run calls).entities.keys ↔ ∃ entities ∈ named? calls, entity ∈ entities := by
  cases named : named? calls with
  | none =>
    rw [run_unnamed named]
    exact ⟨nofun, nofun⟩
  | some entities =>
    rw [run_named named, mem_keys_entities_table]
    simp

/-! ### Rows -/

variable {calls : List Call} {entity : EntityId} {series : Series}

theorem series?_run : (run calls).series? entity = some series ↔
    entity ∈ (run calls).entities.keys ∧ series = samples (columns (applied calls)) entity := by
  cases named : named? calls with
  | none =>
    rw [run_unnamed named]
    exact ⟨nofun, nofun⟩
  | some entities =>
    rw [run_named named, series?_table, mem_keys_entities_table]
    by_cases tracked : entity ∈ entities <;> simp [tracked, eq_comm]

theorem length_of_series? (found : (run calls).series? entity = some series) :
    series.length = (run calls).length := by
  obtain ⟨row, rfl⟩ := series?_run.mp found
  obtain ⟨entities, named, tracked⟩ := (mem_keys_run calls entity).mp row
  rw [run_named named, length_table _ _ tracked, samples, List.length_map]

theorem times_samples (snapshots : List Snapshot) (entity : EntityId) :
    (samples snapshots entity).map (·.timestamp) = snapshots.map (·.timestamp) :=
  List.map_map

/-- A row is there for good, and shows all that is recorded later. -/
theorem series?_run_append (found : (run calls).series? entity = some series)
    (more : List Call) : (run (calls ++ more)).series? entity =
      some (samples (columns (applied calls ++ more.filterMap Call.snapshot?)) entity) := by
  obtain ⟨row, _⟩ := series?_run.mp found
  obtain ⟨entities, named, member⟩ := (mem_keys_run calls entity).mp row
  refine series?_run.mpr ⟨(mem_keys_run _ entity).mpr ⟨entities, ?_, member⟩, ?_⟩
  · exact named?_append named more
  · rw [applied_append (Option.isSome_of_mem named)]

/-- A history is the table that some calls ask for. -/
structure TableOf (calls : List Call) (history : History) : Prop where
  /-- Its rows are the entities named first. -/
  rows : ∀ entity, entity ∈ history.entities.keys ↔ ∃ entities ∈ named? calls, entity ∈ entities
  /-- It can be given its entities as long as it has none. -/
  first : named? calls = none → ∀ entities, ∃ notices,
    history.track entities = .ok (run (calls ++ [.track entities]), notices)
  /-- It cannot be given any again. -/
  again : (named? calls).isSome → ∀ entities,
    history.track entities = .error .alreadyInitialized ∧ history.after (.track entities) = history
  /-- It takes no snapshot before it has its entities. -/
  early : named? calls = none → ∀ snapshot,
    history.apply snapshot = .error .notInitialized ∧ history.after (.apply snapshot) = history
  /-- Then it takes any, and records those than which none before was newer. -/
  records : (named? calls).isSome → ∀ snapshot, ∃ notices, history.apply snapshot =
    .ok ⟨run (calls ++ [.apply snapshot]), decide (snapshot.Newest (applied calls)), notices⟩
  /-- Each of its rows has the samples of the snapshots recorded. -/
  series : ∀ entity ∈ history.entities.keys,
    history.series? entity = some (samples (columns (applied calls)) entity)
  /-- Nothing else has any. -/
  untracked : ∀ entity ∉ history.entities.keys, history.series? entity = none
  /-- All rows have the same times. -/
  times : ∀ entity series, history.series? entity = some series →
    series.map (·.timestamp) = (columns (applied calls)).map (·.timestamp)
  /-- All rows are as long as the history says. -/
  length : ∀ entity series, history.series? entity = some series → series.length = history.length
  /-- The times never fall. -/
  rising : ∀ entity series, history.series? entity = some series →
    series.Pairwise (·.timestamp ≤ ·.timestamp)
  /-- A snapshot that is recorded gives each row one sample at its end, unknown if the entity
  is absent from it. -/
  sample : ∀ snapshot, snapshot.Newest (applied calls) → ∀ entity series,
    history.series? entity = some series →
      (run (calls ++ [.apply snapshot])).series? entity =
        some (series ++ [⟨snapshot.timestamp, (snapshot.statuses.get? entity).getD .unknown⟩])
  /-- Whatever is called, rows only grow at their ends. -/
  grows : ∀ more entity series, history.series? entity = some series →
    ∃ grown, (run (calls ++ more)).series? entity = some grown ∧ series <+: grown

/-- Whatever calls a history has seen, it is the table that they ask for. -/
theorem run_table (calls : List Call) : TableOf calls (run calls) where
  rows := mem_keys_run calls
  first unnamed entities := by
    obtain ⟨notices, done⟩ := track_eq_table entities
    rw [run_unnamed unnamed, run_concat, run_unnamed unnamed, after, done]
    exact ⟨notices, rfl⟩
  again named entities := by
    obtain ⟨first, named⟩ := Option.isSome_iff_exists.mp named
    rw [run_named named]
    exact ⟨rfl, rfl⟩
  early unnamed snapshot := by
    rw [run_unnamed unnamed]
    exact ⟨rfl, rfl⟩
  records named snapshot := by
    obtain ⟨entities, known⟩ := Option.isSome_iff_exists.mp named
    obtain ⟨notices, done⟩ := apply_columns entities (applied calls) snapshot
    rw [run_named known, run_named (named?_append known _), applied_append named]
    exact ⟨notices, done⟩
  series entity row := by
    exact series?_run.mpr ⟨row, rfl⟩
  untracked entity absent := by
    refine Option.eq_none_iff_forall_ne_some.mpr fun series found => ?_
    exact absent (series?_run.mp found).1
  times entity series found := by
    rw [(series?_run.mp found).2, times_samples]
  length entity series := length_of_series?
  rising entity series found := by
    rw [(series?_run.mp found).2]
    exact List.pairwise_map.mpr (pairwise_columns _)
  sample snapshot newest entity series found := by
    have brought : [Call.apply snapshot].filterMap Call.snapshot? = [snapshot] := rfl
    rw [series?_run_append found, brought, columns_concat, if_pos newest, samples_append,
      (series?_run.mp found).2]
    rfl
  grows more entity series found := by
    refine ⟨_, series?_run_append found more, ?_⟩
    rw [(series?_run.mp found).2]
    exact (prefix_columns_append _ _).map _

end History

end TreeWatch
