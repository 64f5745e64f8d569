/-
This file says what a display gets to see of a whole run, whatever happens to the requests.
Let the snapshots that the accepted octets decode to be listed in order. The display is
shown each of them once, repetitions in a row aside; the history grows by those that are not
older than any before, and is shown right after each of them; a repetition at most brings
back the banner, and nothing else does more (`run_paints`).
-/

import Mathlib.Data.List.Forall2
import Mathlib.Data.List.Infix
import TreeWatch.Proofs.Paints

namespace TreeWatch.Connection

/-- Everything that a run paints, in order. -/
def painted (connection : Connection) (events : List (Event × Moment)) : List Paint :=
  connection.gather (fun connection event moment => (connection.step event moment).paints) events

/-- All snapshots that a run brings, in order. -/
def decodes (connection : Connection) (events : List (Event × Moment)) : List Snapshot :=
  connection.gather (fun connection event _ => (connection.decoded? event).toList) events

/-- All snapshots that a run adds to the history, in order. -/
def records (connection : Connection) (events : List (Event × Moment)) : List Snapshot :=
  connection.gather (fun connection event moment => (connection.recorded? event moment).toList)
    events

variable {connection : Connection} {entities : List EntityId} {earlier : List Snapshot}

theorem Recalls.run (recalls : connection.Recalls entities earlier)
    (events : List (Event × Moment)) :
    (connection.run events).Recalls entities (earlier ++ connection.decodes events) := by
  induction events using List.reverseRecOn with
  | nil =>
    rw [decodes, gather, List.append_nil]
    exact recalls
  | append_singleton events event inductionHypothesis =>
    rw [run_append, decodes, gather_concat, ← List.append_assoc]
    exact (inductionHypothesis.step event.2 event.1).2

/-- These are all statuses to show of some snapshots: one after the other, those that
repeat the one before them aside. -/
def AllShown (entities : List EntityId) (decoded : List Snapshot)
    (shown : List (SortedMap Status)) : Prop :=
  List.Forall₂ (·.ShownAs entities) (decoded.destutter (· ≠ ·)) shown

/-- These are all series to show of some snapshots: each time one is recorded, those that
have been recorded up to it. -/
def AllRecorded (entities : List EntityId) (decoded : List Snapshot)
    (shown : List (SortedMap Series)) : Prop :=
  List.Forall₂ (fun recorded => SeriesOf entities (History.samples recorded))
    (History.recordable [] decoded).inits.tail shown

theorem filterMap_of_banners {Part : Type} {part? : Paint → Option Part} {paints : List Paint}
    (skips : ∀ banner, part? (.indicator banner) = none)
    (banners : ∀ paint ∈ paints, paint.IsBanner) : paints.filterMap part? = [] :=
  List.filterMap_eq_nil_iff.mpr fun paint member => by
    obtain ⟨banner, rfl⟩ := banners paint member
    exact skips banner

section Step

variable {connected : Bool} {wall : Int} {brought : Option Snapshot} {paints : List Paint}

theorem filterMap_of_repeated {Part : Type} {part? : Paint → Option Part} (connected : Bool)
    (wall : Int) (skips : ∀ banner, part? (.indicator banner) = none) :
    (if connected then [] else [Paint.indicator (.lastUpdate wall)]).filterMap part? = [] := by
  cases connected with
  | true => rfl
  | false => exact filterMap_of_banners skips (by simp [Paint.IsBanner])

theorem Paints.allShown {shown : List (SortedMap Status)} (before : AllShown entities earlier shown)
    (step : Paints entities earlier connected wall brought paints) :
    AllShown entities (earlier ++ brought.toList) (shown ++ paints.filterMap Paint.current?) := by
  cases step with
  | nothing _ banners =>
    rw [filterMap_of_banners (fun _ => rfl) banners, Option.toList_none, List.append_nil,
      List.append_nil]
    exact before
  | again snapshot same =>
    rw [AllShown, Option.toList_some, destutter_concat, if_pos same,
      filterMap_of_repeated connected wall fun _ => rfl, List.append_nil, List.append_nil]
    exact before
  | older snapshot other late statuses is =>
    rw [AllShown, Option.toList_some, destutter_concat, if_neg other]
    exact List.rel_append before (.cons is .nil)
  | newest snapshot other new statuses series is ends =>
    rw [AllShown, Option.toList_some, destutter_concat, if_neg other]
    exact List.rel_append before (.cons is .nil)

theorem Paints.allRecorded {shown : List (SortedMap Series)}
    (before : AllRecorded entities earlier shown)
    (step : Paints entities earlier connected wall brought paints) :
    AllRecorded entities (earlier ++ brought.toList)
      (shown ++ paints.filterMap Paint.history?) := by
  have kept {snapshot : Snapshot}
      (stale : ¬ (earlier.getLast? ≠ some snapshot ∧ snapshot.Newest earlier)) :
      AllRecorded entities (earlier ++ [snapshot]) shown := by
    rw [AllRecorded, History.recordable_concat, if_neg stale, List.append_nil]
    exact before
  cases step with
  | nothing _ banners =>
    rw [filterMap_of_banners (fun _ => rfl) banners, Option.toList_none, List.append_nil,
      List.append_nil]
    exact before
  | again snapshot same =>
    rw [filterMap_of_repeated connected wall fun _ => rfl, List.append_nil]
    exact kept fun fresh => fresh.1 same
  | older snapshot other late statuses is =>
    exact (List.append_nil shown).symm ▸ kept fun fresh => late fresh.2
  | newest snapshot other new statuses series is ends =>
    rw [AllRecorded, Option.toList_some, History.recordable_concat, if_pos ⟨other, new⟩,
      List.inits_append, List.tail_append_of_ne_nil
        (List.ne_nil_of_mem ((List.mem_inits [] _).mpr List.nil_prefix))]
    exact List.rel_append before
      (.cons (fun entity => (ends entity).trans (by rw [History.samples_append]; rfl)) .nil)

theorem Paints.recorded (step : Paints entities earlier connected wall brought paints) :
    (if paints.any (·.history?.isSome) then brought else none).toList =
      History.recordable earlier brought.toList := by
  cases step with
  | nothing => rw [ite_self]; rfl
  | again snapshot same =>
    have stale : ¬ (earlier.getLast? ≠ some snapshot ∧ snapshot.Newest earlier) :=
      fun fresh => fresh.1 same
    rw [Option.toList_some, History.recordable_singleton, if_neg stale]
    cases connected <;> rfl
  | older snapshot _ late =>
    have stale : ¬ (earlier.getLast? ≠ some snapshot ∧ snapshot.Newest earlier) :=
      fun fresh => late fresh.2
    rw [Option.toList_some, History.recordable_singleton, if_neg stale]
    rfl
  | newest snapshot other new =>
    have fresh : earlier.getLast? ≠ some snapshot ∧ snapshot.Newest earlier := ⟨other, new⟩
    rw [Option.toList_some, History.recordable_singleton, if_pos fresh]
    rfl

end Step

/-- A connection that remembers enough adds to its history what all the earlier snapshots
demand. -/
theorem Recalls.recorded? (recalls : connection.Recalls entities earlier) (event : Event)
    (moment : Moment) : (connection.recorded? event moment).toList =
      History.recordable earlier (connection.decoded? event).toList :=
  (recalls.step moment event).1.recorded

/-- What a run records is decided event by event. -/
theorem records_concat {events : List (Event × Moment)} {event : Event} {moment : Moment}
    (before : connection.records events = History.recordable [] (connection.decodes events))
    (step : ((connection.run events).recorded? event moment).toList =
      History.recordable (connection.decodes events)
        ((connection.run events).decoded? event).toList) :
    connection.records (events ++ [(event, moment)]) =
      History.recordable [] (connection.decodes (events ++ [(event, moment)])) := by
  rw [Connection.records] at before ⊢
  rw [decodes, gather_concat, gather_concat, ← decodes, before, step,
    History.recordable_append, List.nil_append]

theorem Recalls.records (recalls : connection.Recalls entities [])
    (events : List (Event × Moment)) :
    connection.records events = History.recordable [] (connection.decodes events) := by
  induction events using List.reverseRecOn with
  | nil => rfl
  | append_singleton events event inductionHypothesis =>
    exact records_concat inductionHypothesis ((recalls.run events).recorded? event.1 event.2)

/-- A run shows and records the snapshots it brings, and paints nothing else but banners. -/
theorem Recalls.painted (recalls : connection.Recalls entities [])
    (events : List (Event × Moment)) :
    AllShown entities (connection.decodes events)
        ((connection.painted events).filterMap Paint.current?) ∧
      AllRecorded entities (connection.decodes events)
        ((connection.painted events).filterMap Paint.history?) := by
  induction events using List.reverseRecOn with
  | nil => exact ⟨.nil, .nil⟩
  | append_singleton events event inductionHypothesis =>
    have step := ((recalls.run events).step event.2 event.1).1
    rw [decodes, Connection.painted, gather_concat, gather_concat, List.filterMap_append,
      List.filterMap_append]
    exact ⟨step.allShown inductionHypothesis.1, step.allRecorded inductionHypothesis.2⟩

/-- A connection that has just been told what to track. -/
def watching (timeout : Nat) (entities : List EntityId) (opening : Moment) : Connection :=
  ((new timeout).step (.track entities) opening).connection

theorem recalls_watching (timeout : Nat) (entities : List EntityId) (opening : Moment) :
    (watching timeout entities opening).Recalls entities [] := by
  obtain ⟨notices, done⟩ := History.track_eq_table entities
  simp only [watching, step, track, new, done]
  exact ⟨rfl, rfl⟩

/-- Every run shows exactly the snapshots that were brought, and records exactly those of
them than which none before was newer. -/
theorem run_paints (timeout : Nat) (entities : List EntityId) (opening : Moment)
    (events : List (Event × Moment)) :
    AllShown entities ((watching timeout entities opening).decodes events)
        (((watching timeout entities opening).painted events).filterMap Paint.current?) ∧
      AllRecorded entities ((watching timeout entities opening).decodes events)
        (((watching timeout entities opening).painted events).filterMap Paint.history?) ∧
      (watching timeout entities opening).records events =
        History.recordable [] ((watching timeout entities opening).decodes events) ∧
      ((watching timeout entities opening).run events).history =
        .table entities ((watching timeout entities opening).records events) ∧
      ∀ (event : Event) (moment : Moment),
        Paints entities ((watching timeout entities opening).decodes events)
          ((watching timeout entities opening).run events).standing.connected moment.wall
          (((watching timeout entities opening).run events).decoded? event)
          (((watching timeout entities opening).run events).step event moment).paints := by
  have recalls := recalls_watching timeout entities opening
  have recalled := recalls.run events
  obtain ⟨shown, recorded⟩ := recalls.painted events
  refine ⟨shown, recorded, recalls.records events, ?_,
    fun event moment => (recalled.step moment event).1⟩
  rw [recalls.records events]
  exact recalled.history

/-- The older of two snapshots is shown as well, each with both entities, but recorded is only
the newer one that came before. -/
theorem run_paints_late :
    let events : List (Event × Moment) := [(.connect, ⟨0, 0⟩),
      (.progress 1 (Utf8.encode "\x7b\"timestamp\":5,\"pump\":\"#9999FF\"\x7d"), ⟨1, 0⟩),
      (.progress 1 (Utf8.encode "\x7b\"timestamp\":3,\"valve\":\"teal\"\x7d"), ⟨2, 0⟩)]
    let newer : Snapshot := ⟨5, .ofList [("pump", .value "#9999FF")]⟩
    let older : Snapshot := ⟨3, .ofList [("valve", .value "teal")]⟩
    let shown : List (SortedMap Status) :=
      [.ofList [("pump", .value "#9999FF"), ("valve", .unknown)],
        .ofList [("pump", .unknown), ("valve", .value "teal")]]
    let series : List (SortedMap Series) :=
      [.ofList [("pump", [⟨5, .value "#9999FF"⟩]), ("valve", [⟨5, .unknown⟩])]]
    let painted := (watching 100 ["pump", "valve"] ⟨0, 0⟩).painted events
    painted.filterMap Paint.current? = shown ∧ painted.filterMap Paint.history? = series ∧
      AllShown ["pump", "valve"] [newer, older] shown ∧
      AllRecorded ["pump", "valve"] [newer, older] series ∧
      (watching 100 ["pump", "valve"] ⟨0, 0⟩).records events = [newer] := by
  intro events newer older shown series painted
  obtain ⟨allShown, allRecorded, recorded, _⟩ :=
    run_paints 100 ["pump", "valve"] ⟨0, 0⟩ events
  exact ⟨rfl, rfl, allShown, allRecorded, recorded⟩

end TreeWatch.Connection
