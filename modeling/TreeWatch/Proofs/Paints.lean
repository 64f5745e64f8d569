/-
This file says what one event paints. What a display is to see of a snapshot depends on all
the snapshots before it: it is shown unless it repeats the last one, and recorded as well if
none of them is newer (`Paints`). The connection remembers just enough of them to go on: the
last one and those that were recorded (`Recalls`). An event that brings no snapshot paints
nothing but a banner.
-/

import TreeWatch.Proofs.Recording
import TreeWatch.Proofs.Rows
import TreeWatch.Proofs.Run

namespace TreeWatch

/-! ### What is painted -/

/-- What an effect paints, if anything. -/
def Effect.paint? : Effect → Option Paint
  | .paint shown => some shown
  | .record _ => none

namespace Paint

/-- The statuses that are shown, if it is them. -/
def current? : Paint → Option (SortedMap Status)
  | .current statuses => some statuses
  | _ => none

/-- The series that are shown, if it is them. -/
def history? : Paint → Option (SortedMap Series)
  | .history series => some series
  | _ => none

/-- The paint is just a banner. -/
def IsBanner (paint : Paint) : Prop := ∃ banner, paint = .indicator banner

end Paint

/-- These are the statuses of some entities in a snapshot: each of the entities has its own
there, unknown where the snapshot lacks it, and nothing else has one. -/
def Snapshot.ShownAs (snapshot : Snapshot) (entities : List EntityId)
    (statuses : SortedMap Status) : Prop :=
  ∀ entity, statuses.get? entity =
    if entity ∈ entities then some ((snapshot.statuses.get? entity).getD .unknown) else none

/-- Each of some entities has these samples, and nothing else has any. -/
def SeriesOf (entities : List EntityId) (samples : EntityId → Series)
    (series : SortedMap Series) : Prop :=
  ∀ entity, series.get? entity = if entity ∈ entities then some (samples entity) else none

namespace Connection

def Outcome.paints (outcome : Outcome) : List Paint := outcome.effects.filterMap Effect.paint?

/-- The snapshot that an event brings: octets are accepted and decode to it. -/
def decoded? (connection : Connection) : Event → Option Snapshot
  | .progress generation chunk =>
    if connection.isCurrent generation then
      (Stream.decodeLatest (connection.buffer ++ chunk)).toOption.map Decoded.snapshot
    else none
  | _ => none

/-- The snapshot that an event adds to the history: the one it brings, if all series are shown
with it. -/
def recorded? (connection : Connection) (event : Event) (moment : Moment) : Option Snapshot :=
  if (connection.step event moment).paints.any (·.history?.isSome) then connection.decoded? event
  else none

/-- What one event may paint when some snapshots came before it. -/
inductive Paints (entities : List EntityId) (earlier : List Snapshot) (connected : Bool)
    (wall : Int) : Option Snapshot → List Paint → Prop where
  /-- The event brings no snapshot. -/
  | nothing (paints : List Paint) (banners : ∀ paint ∈ paints, paint.IsBanner) :
      Paints entities earlier connected wall none paints
  /-- It repeats the last one. -/
  | again (snapshot : Snapshot) (shown : earlier.getLast? = some snapshot) :
      Paints entities earlier connected wall (some snapshot)
        (if connected then [] else [.indicator (.lastUpdate wall)])
  /-- It brings another one, but a newer one was there before. -/
  | older (snapshot : Snapshot) (other : earlier.getLast? ≠ some snapshot)
      (late : ¬ snapshot.Newest earlier) (statuses : SortedMap Status)
      (shown : snapshot.ShownAs entities statuses) :
      Paints entities earlier connected wall (some snapshot)
        [.current statuses, .indicator (.lastUpdate wall)]
  /-- It brings another one, and none before it is newer. -/
  | newest (snapshot : Snapshot) (other : earlier.getLast? ≠ some snapshot)
      (new : snapshot.Newest earlier) (statuses : SortedMap Status) (series : SortedMap Series)
      (shown : snapshot.ShownAs entities statuses)
      (ends : SeriesOf entities (fun entity => History.samples (History.recordable [] earlier)
        entity ++ [⟨snapshot.timestamp, (snapshot.statuses.get? entity).getD .unknown⟩]) series) :
      Paints entities earlier connected wall (some snapshot)
        [.current statuses, .history series, .indicator (.lastUpdate wall)]

/-! ### Events that bring no snapshot -/

/-- These effects paint nothing but banners. -/
def BannersOnly (effects : List Effect) : Prop :=
  ∀ paint, Effect.paint paint ∈ effects → paint.IsBanner

theorem isBanner_of_mem_paints {outcome : Outcome} (only : BannersOnly outcome.effects) :
    ∀ paint ∈ outcome.paints, paint.IsBanner := by
  intro paint member
  obtain ⟨effect, inside, same⟩ := List.mem_filterMap.mp member
  cases effect with
  | paint other => exact only paint (Option.some.inj same ▸ inside)
  | record => cases same

variable {connection : Connection} {event : Event} (moment : Moment)

theorem bannersOnly_record (notice : Notice) {effects : List Effect}
    (only : BannersOnly effects) : BannersOnly (.record notice :: effects) := by
  intro paint member
  rcases List.mem_cons.mp member with impossible | member
  · cases impossible
  · exact only paint member

theorem bannersOnly_indicator (indicator : Indicator) {effects : List Effect}
    (only : BannersOnly effects) : BannersOnly (.paint (.indicator indicator) :: effects) := by
  intro paint member
  rcases List.mem_cons.mp member with equal | member
  · exact ⟨indicator, Effect.paint.inj equal⟩
  · exact only paint member

theorem bannersOnly_nil : BannersOnly [] := nofun

theorem bannersOnly_disconnect (connection : Connection) :
    BannersOnly (connection.disconnect moment).2 := by
  unfold disconnect
  split
  · exact bannersOnly_indicator _ (bannersOnly_record _ bannersOnly_nil)
  · exact bannersOnly_record _ bannersOnly_nil

theorem bannersOnly_fail (connection : Connection) (failure : Failure) :
    BannersOnly (connection.fail failure moment).2 := by
  simp only [fail]
  split
  · exact bannersOnly_record _ (bannersOnly_disconnect moment _)
  · split
    · exact bannersOnly_record _ (bannersOnly_indicator _ bannersOnly_nil)
    · exact bannersOnly_record _ bannersOnly_nil

theorem bannersOnly_confirm (connection : Connection) :
    BannersOnly (connection.confirm moment).2 := by
  unfold confirm
  split
  · exact bannersOnly_nil
  · exact bannersOnly_record _ (bannersOnly_indicator _ bannersOnly_nil)

/-- An event that brings no snapshot paints nothing but banners. -/
theorem bannersOnly_step (named : connection.history.isInitialized = true)
    (nothing : connection.decoded? event = none) :
    BannersOnly (connection.step event moment).effects := by
  cases event with
  | track entities =>
    simp only [step, track_named named]
    exact bannersOnly_nil
  | connect =>
    simp only [step, connect, if_pos named]
    exact bannersOnly_record _ bannersOnly_nil
  | progress generation chunk =>
    show BannersOnly
      (Outcome.ofResult connection (connection.progress generation chunk moment)).effects
    cases current : connection.isCurrent generation with
    | false =>
      rw [progress_stale moment current]
      exact bannersOnly_record _ bannersOnly_nil
    | true =>
      rw [decoded?, if_pos current] at nothing
      cases read : Stream.decodeLatest (connection.buffer ++ chunk) with
      | ok decoded =>
        rw [read] at nothing
        cases nothing
      | error error =>
        by_cases more : error = .incomplete
        · subst more
          rw [progress_incomplete moment current read]
          exact bannersOnly_record _ bannersOnly_nil
        · have hopeless : error.isIncomplete = false := by
            cases error <;> first | rfl | exact absurd rfl more
          rw [progress_failed moment current hopeless read]
          exact bannersOnly_record _ (bannersOnly_fail moment _ _)
  | requestError generation error =>
    show BannersOnly (connection.requestError generation error moment).2
    unfold requestError
    split
    · exact bannersOnly_fail moment _ _
    · exact bannersOnly_record _ bannersOnly_nil
  | complete generation =>
    show BannersOnly (connection.complete generation moment).2
    unfold complete
    split
    · split
      · exact bannersOnly_record _ bannersOnly_nil
      · exact bannersOnly_fail moment _ _
    · exact bannersOnly_nil
  | watchdogDue =>
    show BannersOnly (connection.watchdogDue moment).2
    simp only [watchdogDue]
    split
    · exact bannersOnly_fail moment _ _
    · exact bannersOnly_nil
  | disconnect => exact bannersOnly_disconnect moment connection
  | shutdown => exact bannersOnly_nil

/-- What is recorded and what was last shown only changes with a snapshot. -/
theorem Shift.remembers {before after : Connection} {moment : Moment}
    (shift : Shift before moment event after) (named : before.history.isInitialized = true)
    (nothing : before.decoded? event = none) :
    after.history = before.history ∧ after.lastApplied = before.lastApplied := by
  cases shift with
  | tracked _ _ fresh =>
    rw [named] at fresh
    cases fresh
  | took generation chunk current decoded read =>
    rw [decoded?, if_pos current, read] at nothing
    cases nothing
  | _ => exact ⟨rfl, rfl⟩

/-! ### Events that bring one -/

theorem decoded?_eq_some {snapshot : Snapshot}
    (brought : connection.decoded? event = some snapshot) :
    ∃ generation chunk, event = .progress generation chunk ∧
      connection.isCurrent generation = true ∧
      ∃ decoded, Stream.decodeLatest (connection.buffer ++ chunk) = .ok decoded ∧
        decoded.snapshot = snapshot := by
  cases event with
  | progress generation chunk =>
    rw [decoded?] at brought
    split at brought
    · next current =>
      cases read : Stream.decodeLatest (connection.buffer ++ chunk) with
      | ok decoded =>
        rw [read] at brought
        exact ⟨generation, chunk, rfl, current, decoded, read, Option.some.inj brought⟩
      | error error =>
        rw [read] at brought
        cases brought
    · cases brought
  | _ => cases brought

/-- What a connection remembers of all snapshots brought so far. -/
structure Recalls (connection : Connection) (entities : List EntityId)
    (decoded : List Snapshot) : Prop where
  history : connection.history = .table entities (History.recordable [] decoded)
  shown : connection.lastApplied = decoded.getLast?

variable {entities : List EntityId} {earlier : List Snapshot}

theorem Recalls.named (recalls : connection.Recalls entities earlier) :
    connection.history.isInitialized = true := by
  rw [recalls.history]
  rfl

theorem filterMap_paint?_record (notices : List Notice) :
    (notices.map Effect.record).filterMap Effect.paint? = [] := by
  rw [List.filterMap_map]
  exact List.filterMap_eq_nil_iff.mpr fun _ _ => rfl

/-- What is shown of a snapshot that the history was given. -/
theorem apply_paints {snapshot : Snapshot} {applied : History.Applied}
    (done : connection.history.apply snapshot = .ok applied) :
    ∃ effects, connection.apply snapshot moment = .ok ({ connection with
        history := applied.history
        lastApplied := some snapshot
        standing := .live moment.wall }, effects) ∧
      effects.filterMap Effect.paint? = .current (applied.history.current snapshot) ::
        (if applied.recorded then [.history applied.history.all] else []) ++
          [.indicator (.lastUpdate moment.wall)] := by
  rw [Connection.apply, done]
  refine ⟨_, rfl, ?_⟩
  simp only [List.filterMap_append, filterMap_paint?_record]
  cases connection.standing.connected <;> cases applied.recorded <;> rfl

/-- A connection that remembers enough treats the next snapshot as all the earlier ones
demand. -/
theorem Recalls.takeIn (recalls : connection.Recalls entities earlier) (snapshot : Snapshot) :
    ∃ after effects, connection.takeIn snapshot moment = .ok (after, effects) ∧
      Paints entities earlier connection.standing.connected moment.wall (some snapshot)
        (effects.filterMap Effect.paint?) ∧
      after.Recalls entities (earlier ++ [snapshot]) := by
  have next : some snapshot = (earlier ++ [snapshot]).getLast? := List.getLast?_concat.symm
  have recorded := History.recordable_concat earlier snapshot
  by_cases again : earlier.getLast? = some snapshot
  · have same : connection.lastApplied = some snapshot := recalls.shown.trans again
    have paints : (connection.confirm moment).2.filterMap Effect.paint? =
        if connection.standing.connected then [] else [.indicator (.lastUpdate moment.wall)] := by
      unfold confirm
      split <;> rfl
    rw [if_neg fun fresh => fresh.1 again, List.append_nil] at recorded
    refine ⟨(connection.confirm moment).1, (connection.confirm moment).2, if_pos same,
      paints ▸ .again snapshot again, ?_⟩
    rw [confirm_eq]
    exact ⟨recalls.history.trans (by rw [recorded]), same.trans next⟩
  · have other : connection.lastApplied ≠ some snapshot := fun same =>
      again (recalls.shown.symm.trans same)
    by_cases new : snapshot.Newest earlier
    · have applied := History.apply_newest entities ((History.newest_recordable earlier).mpr new)
      obtain ⟨effects, done, paints⟩ :=
        apply_paints moment ((congrArg (·.apply snapshot) recalls.history).trans applied)
      rw [if_pos ⟨again, new⟩] at recorded
      refine ⟨_, effects, (if_neg other).trans done, ?_, ⟨by rw [recorded], next⟩⟩
      rw [paints]
      exact .newest snapshot again new _ _ (History.get?_current_table entities _ snapshot)
        fun entity => (History.get?_rows entities _ entity).trans
          (by rw [History.samples_append]; rfl)
    · obtain ⟨notices, kept⟩ := History.apply_older entities fun newest =>
        new ((History.newest_recordable earlier).mp newest)
      obtain ⟨effects, done, paints⟩ :=
        apply_paints moment ((congrArg (·.apply snapshot) recalls.history).trans kept)
      rw [if_neg fun fresh => new fresh.2, List.append_nil] at recorded
      refine ⟨_, effects, (if_neg other).trans done, ?_, ⟨by rw [recorded], next⟩⟩
      rw [paints]
      exact .older snapshot again new _ (History.get?_current_table entities _ snapshot)

/-- One event paints what the snapshots so far demand, and they are remembered again. -/
theorem Recalls.step (recalls : connection.Recalls entities earlier) (event : Event) :
    Paints entities earlier connection.standing.connected moment.wall
        (connection.decoded? event) (connection.step event moment).paints ∧
      (connection.step event moment).connection.Recalls entities
        (earlier ++ (connection.decoded? event).toList) := by
  cases brought : connection.decoded? event with
  | none =>
    refine ⟨.nothing _ (isBanner_of_mem_paints (bannersOnly_step moment recalls.named brought)), ?_⟩
    obtain ⟨history, shown⟩ := (shift_step moment event fun _ => recalls.named).remembers
      recalls.named brought
    rw [Option.toList_none, List.append_nil]
    exact ⟨history.trans recalls.history, shown.trans recalls.shown⟩
  | some snapshot =>
    obtain ⟨generation, chunk, rfl, current, decoded, read, rfl⟩ := decoded?_eq_some brought
    have still : Recalls { connection.receive chunk moment with
        buffer := (connection.buffer ++ chunk).drop decoded.offset } entities earlier :=
      ⟨recalls.history, recalls.shown⟩
    obtain ⟨after, effects, taken, paints, recalled⟩ := still.takeIn moment decoded.snapshot
    have outcome : connection.step (.progress generation chunk) moment =
        { connection := after
          effects := .record (progressNotice generation chunk (connection.buffer ++ chunk)) ::
            effects } := by
      rw [Connection.step, progress_decoded moment current read, taken]
      rfl
    rw [outcome]
    exact ⟨paints, recalled⟩

end Connection

end TreeWatch
