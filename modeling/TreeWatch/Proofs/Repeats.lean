/-
This file says when a run records the same snapshot twice in a row. A repetition is
recognised by looking at the snapshot shown last, so an older one that was shown in between
hides it: a snapshot that comes back behind older ones is recorded again. That is the only
way (`recorded_distinct_iff`).
-/

import TreeWatch.Proofs.Showing

namespace TreeWatch

namespace Snapshot

/-- A snapshot is among some, none before it is newer, and all behind it are older. -/
def Stands (snapshot : Snapshot) (decoded : List Snapshot) : Prop :=
  ∃ before between, decoded = before ++ snapshot :: between ∧ snapshot.Newest before ∧
    ∀ other ∈ between, other.timestamp < snapshot.timestamp

variable {snapshot last : Snapshot} {decoded : List Snapshot}

theorem Stands.mem (stands : snapshot.Stands decoded) : snapshot ∈ decoded := by
  obtain ⟨before, between, rfl, _, _⟩ := stands
  exact List.mem_append_right _ List.mem_cons_self

theorem Stands.newest (stands : snapshot.Stands decoded) : snapshot.Newest decoded := by
  obtain ⟨before, between, rfl, newest, older⟩ := stands
  intro other member
  rcases List.mem_append.mp member with early | member
  · exact newest other early
  · rcases List.mem_cons.mp member with rfl | late
    · exact Int64.le_refl _
    · exact Int64.le_of_lt (older other late)

theorem stands_concat :
    snapshot.Stands (decoded ++ [last]) ↔
      (last = snapshot ∧ snapshot.Newest decoded) ∨
        (snapshot.Stands decoded ∧ last.timestamp < snapshot.timestamp) := by
  constructor
  · rintro ⟨before, between, split, newest, older⟩
    rcases List.eq_nil_or_concat between with rfl | ⟨between, other, rfl⟩
    · obtain ⟨rfl, equal⟩ := List.append_inj' split rfl
      exact .inl ⟨List.head_eq_of_cons_eq equal, newest⟩
    · rw [List.concat_eq_append, ← List.cons_append, ← List.append_assoc] at split
      obtain ⟨rfl, equal⟩ := List.append_inj' split rfl
      obtain rfl := List.head_eq_of_cons_eq equal
      simp only [List.concat_eq_append, List.forall_mem_append, List.forall_mem_singleton] at older
      exact .inr ⟨⟨before, between, rfl, newest, older.1⟩, older.2⟩
  · rintro (⟨rfl, newest⟩ | ⟨⟨before, between, rfl, newest, older⟩, below⟩)
    · exact ⟨decoded, [], rfl, newest, nofun⟩
    · refine ⟨before, between ++ [last], by simp, newest, ?_⟩
      simpa only [List.forall_mem_append, List.forall_mem_singleton] using ⟨older, below⟩

/-- What comes last while a snapshot stands and is no older is that snapshot. -/
theorem Stands.eq_getLast (stands : snapshot.Stands decoded) (ends : decoded.getLast? = some last)
    (notOlder : ¬ last.timestamp < snapshot.timestamp) : last = snapshot := by
  obtain ⟨before, rfl⟩ := List.getLast?_eq_some_iff.mp ends
  rcases stands_concat.mp stands with ⟨same, _⟩ | ⟨_, older⟩
  · exact same
  · exact absurd older notOlder

end Snapshot

namespace History

variable {snapshot last : Snapshot} {decoded : List Snapshot}

/-- A history has some snapshots as its columns: it is the table of them for its entities, or
has no entities yet and there are none. -/
inductive Holds : History → List Snapshot → Prop where
  | nothing : Holds uninitialized []
  | table (entities : List EntityId) (recorded : List Snapshot) :
      Holds (History.table entities recorded) recorded

/-- A snapshot comes back while it stands, though not right behind itself. -/
def Returns (decoded : List Snapshot) : Prop :=
  ∃ before snapshot after, decoded = before ++ snapshot :: after ∧ snapshot.Stands before ∧
    before.getLast? ≠ some snapshot

/-- The snapshot recorded last is the one that stands. -/
theorem getLast?_recordable_iff (decoded : List Snapshot) :
    (recordable [] decoded).getLast? = some snapshot ↔ snapshot.Stands decoded := by
  induction decoded using List.reverseRecOn with
  | nil => simp [recordable, Snapshot.Stands]
  | append_singleton decoded last inductionHypothesis =>
    rw [recordable_concat, Snapshot.stands_concat]
    by_cases fresh : decoded.getLast? ≠ some last ∧ last.Newest decoded
    · rw [if_pos fresh, List.getLast?_concat, Option.some_inj]
      constructor
      · rintro rfl
        exact .inl ⟨rfl, fresh.2⟩
      · rintro (⟨same, _⟩ | ⟨stands, below⟩)
        · exact same
        · exact absurd below (Int64.not_lt.mpr (fresh.2 snapshot stands.mem))
    · rw [if_neg fresh, List.append_nil, inductionHypothesis]
      -- What is not recorded repeats the one before it or is older than another.
      have repeats (newest : last.Newest decoded) : decoded.getLast? = some last := by
        by_contra other
        exact fresh ⟨other, newest⟩
      constructor
      · intro stands
        by_cases below : last.timestamp < snapshot.timestamp
        · exact .inr ⟨stands, below⟩
        · have again := repeats (stands.newest.mono (Int64.not_lt.mp below))
          exact .inl ⟨stands.eq_getLast again below, stands.newest⟩
      · rintro (⟨rfl, newest⟩ | ⟨stands, _⟩)
        · obtain ⟨before, rfl⟩ := List.getLast?_eq_some_iff.mp (repeats newest)
          exact Snapshot.stands_concat.mpr (.inl ⟨rfl, (Snapshot.newest_concat.mp newest).1⟩)
        · exact stands

theorem returns_concat :
    Returns (decoded ++ [last]) ↔
      Returns decoded ∨ (last.Stands decoded ∧ decoded.getLast? ≠ some last) := by
  constructor
  · rintro ⟨before, snapshot, after, split, stands, other⟩
    rcases List.eq_nil_or_concat after with rfl | ⟨after, final, rfl⟩
    · obtain ⟨rfl, equal⟩ := List.append_inj' split rfl
      obtain rfl := List.head_eq_of_cons_eq equal
      exact .inr ⟨stands, other⟩
    · rw [List.concat_eq_append, ← List.cons_append, ← List.append_assoc] at split
      obtain ⟨rfl, _⟩ := List.append_inj' split rfl
      exact .inl ⟨before, snapshot, after, rfl, stands, other⟩
  · rintro (⟨before, snapshot, after, rfl, stands, other⟩ | ⟨stands, other⟩)
    · exact ⟨before, snapshot, after ++ [last], by simp, stands, other⟩
    · exact ⟨decoded, last, [], rfl, stands, other⟩

/-- Only a snapshot that comes back is recorded twice in a row. -/
theorem isChain_recordable_iff (decoded : List Snapshot) :
    (recordable [] decoded).IsChain (· ≠ ·) ↔ ¬ Returns decoded := by
  induction decoded using List.reverseRecOn with
  | nil => simp [recordable, Returns]
  | append_singleton decoded last inductionHypothesis =>
    rw [recordable_concat, returns_concat, not_or]
    by_cases fresh : decoded.getLast? ≠ some last ∧ last.Newest decoded
    · rw [if_pos fresh, List.isChain_append, inductionHypothesis]
      refine and_congr_right fun _ => ?_
      rw [← getLast?_recordable_iff]
      constructor
      · rintro ⟨_, differs⟩ ⟨same, _⟩
        exact differs last same last rfl rfl
      · intro differs
        refine ⟨List.isChain_singleton last, ?_⟩
        rintro other same _ ⟨⟩ rfl
        exact differs ⟨same, fresh.1⟩
    · rw [if_neg fresh, List.append_nil, inductionHypothesis]
      refine (and_iff_left ?_).symm
      rintro ⟨stands, other⟩
      exact fresh ⟨other, stands.newest⟩

end History

namespace Connection

variable {connection : Connection} (moment : Moment)

/-- Nothing was named, wanted or shown so far. -/
structure Blank (connection : Connection) : Prop where
  unnamed : connection.history = .uninitialized
  unwanted : connection.inFlight = false
  unshown : connection.lastApplied = none

theorem Blank.decoded? (blank : connection.Blank) (event : Event) :
    connection.decoded? event = none := by
  cases brought : connection.decoded? event with
  | none => rfl
  | some snapshot =>
    obtain ⟨generation, _, _, current, _⟩ := decoded?_eq_some brought
    have wanted := ((connection.isCurrent_iff generation).mp current).1
    rw [blank.unwanted] at wanted
    cases wanted

/-- Only the naming of the entities ends this. -/
theorem Shift.blank {after : Connection} {moment : Moment} {event : Event}
    (shift : Shift connection moment event after) (blank : connection.Blank)
    (other : ∀ entities, event ≠ .track entities) : after.Blank := by
  obtain ⟨unnamed, unwanted, unshown⟩ := blank
  have asleep : connection.inFlight ≠ true := by simp [unwanted]
  cases shift with
  | idle => exact ⟨unnamed, unwanted, unshown⟩
  | tracked entities => exact absurd rfl (other entities)
  | opened named => simp [unnamed, History.isInitialized] at named
  | heard _ _ current => exact absurd ((connection.isCurrent_iff _).mp current).1 asleep
  | took _ _ current => exact absurd ((connection.isCurrent_iff _).mp current).1 asleep
  | failed _ wanted => exact absurd wanted asleep
  | ended _ current => exact absurd ((connection.isCurrent_iff _).mp current).1 asleep
  | disconnected => exact ⟨unnamed, rfl, unshown⟩
  | expired => exact ⟨unnamed, unwanted, unshown⟩
  | stopped => exact ⟨unnamed, rfl, unshown⟩

theorem Blank.step (blank : connection.Blank) (event : Event) :
    (connection.step event moment).connection.Blank ∨
      ∃ entities, (connection.step event moment).connection.Recalls entities [] := by
  cases event with
  | track entities =>
    refine .inr ⟨entities, ?_⟩
    obtain ⟨notices, done⟩ := History.track_eq_table entities
    simp only [Connection.step, track, blank.unnamed, done]
    exact ⟨rfl, blank.unshown⟩
  | _ =>
    have asleep : connection.Named := fun wanted => by simp [blank.unwanted] at wanted
    refine .inl ((shift_step moment _ asleep).blank blank ?_)
    intro entities same
    cases same

/-- A run from the start remembers the snapshots it brought, as soon as the entities are
named. -/
theorem run_recalls (timeout : Nat) (events : List (Event × Moment)) :
    (((new timeout).run events).Blank ∧ (new timeout).decodes events = []) ∨
      ∃ entities, ((new timeout).run events).Recalls entities ((new timeout).decodes events) := by
  induction events using List.reverseRecOn with
  | nil => exact .inl ⟨⟨rfl, rfl, rfl⟩, rfl⟩
  | append_singleton events event inductionHypothesis =>
    rw [run_append, decodes, gather_concat]
    rcases inductionHypothesis with ⟨blank, nothing⟩ | ⟨entities, recalls⟩
    · rw [decodes] at nothing
      rw [nothing, blank.decoded?, Option.toList_none, List.append_nil]
      exact (blank.step event.2 event.1).imp (⟨·, rfl⟩) id
    · exact .inr ⟨entities, (recalls.step event.2 event.1).2⟩

theorem records_run (timeout : Nat) (events : List (Event × Moment)) :
    (new timeout).records events = History.recordable [] ((new timeout).decodes events) := by
  induction events using List.reverseRecOn with
  | nil => rfl
  | append_singleton events event inductionHypothesis =>
    refine records_concat inductionHypothesis ?_
    rcases run_recalls timeout events with ⟨blank, _⟩ | ⟨entities, recalls⟩
    · rw [recorded?, blank.decoded?, ite_self]
      rfl
    · exact recalls.recorded? event.1 event.2

/-- A run has the columns that it recorded, and no two neighbours among them are equal exactly
if no snapshot comes back. -/
theorem recorded_distinct_iff (timeout : Nat) (events : List (Event × Moment)) :
    ((new timeout).run events).history.Holds ((new timeout).records events) ∧
      (((new timeout).records events).IsChain (· ≠ ·) ↔
        ¬ History.Returns ((new timeout).decodes events)) := by
  rw [records_run]
  refine ⟨?_, History.isChain_recordable_iff _⟩
  rcases run_recalls timeout events with ⟨blank, nothing⟩ | ⟨entities, recalls⟩
  · rw [blank.unnamed, nothing]
    exact .nothing
  · rw [recalls.history]
    exact .table entities _

/-- A snapshot, an older one and the first one again on one request. -/
def backAndForth : List (Event × Moment) :=
  [(.track ["pump"], ⟨0, 0⟩), (.connect, ⟨0, 0⟩),
    (.progress 1 (Utf8.encode "\x7b\"timestamp\":5,\"pump\":1\x7d"), ⟨1, 0⟩),
    (.progress 1 (Utf8.encode "\x7b\"timestamp\":3,\"pump\":1\x7d"), ⟨2, 0⟩),
    (.progress 1 (Utf8.encode "\x7b\"timestamp\":5,\"pump\":1\x7d"), ⟨3, 0⟩)]

theorem decodes_backAndForth :
    (new 100).decodes backAndForth =
      [⟨5, .ofList [("pump", .value "1")]⟩, ⟨3, .ofList [("pump", .value "1")]⟩,
        ⟨5, .ofList [("pump", .value "1")]⟩] := rfl

/-- The older snapshot in between makes the run record the other one twice. -/
theorem recorded_distinct_iff_back_and_forth :
    ¬ ((new 100).records backAndForth).IsChain (· ≠ ·) := by
  rw [(recorded_distinct_iff 100 backAndForth).2, decodes_backAndForth, not_not]
  refine ⟨[⟨5, .ofList [("pump", .value "1")]⟩, ⟨3, .ofList [("pump", .value "1")]⟩], _, [], rfl,
    ⟨[], [⟨3, .ofList [("pump", .value "1")]⟩], rfl, nofun, ?_⟩, ?_⟩
  · decide
  · decide

end Connection

end TreeWatch
