/-
This file proves that the banner tells the truth. Three fields say what is known of the
server: whether it is there, when it last was heard of and since when it is lost. Every
event either leaves all three and the banner alone, or changes both in step (`Announces`).
So whatever happens, the banner shown last is the one that goes with these fields, and there
is none only as long as nothing was shown and nothing has failed (`banner_truthful`). A loss
is only announced when the server counted as there, or at the first failure of all; in a row
of failures the time of the first one therefore stays.
-/

import TreeWatch.Proofs.Failures

namespace TreeWatch

/-- The banner that is shown, if it is one. -/
def Paint.indicator? : Paint → Option Indicator
  | .indicator banner => some banner
  | _ => none

/-- The banner says that the server is lost. -/
def Indicator.IsLoss (banner : Indicator) : Prop := ∃ time, banner = .disconnectedSince time

/-! ### What is known and what is shown -/

namespace Standing

/-- What one event may do to the standing, and the banners that it shows. -/
inductive Announces (before : Standing) (wall : Int) : Standing → List Indicator → Prop where
  | nothing : Announces before wall before []
  | live : Announces before wall (.live wall) [.lastUpdate wall]
  | lost (first : before.FirstFailure) :
      Announces before wall (before.lost wall) [.disconnectedSince wall]

/-- The last of the banners shown so far is the one that goes with the standing, and no two
losses in a row are among them. -/
structure Truthful (standing : Standing) (shown : List Indicator) : Prop where
  live : standing.connected = true → standing.disconnectedSince = none ∧
    ∃ time, standing.lastUpdate = some time ∧ shown.getLast? = some (.lastUpdate time)
  lost : standing.connected = false → (standing = {} ∧ shown = []) ∨
    ∃ time, standing.disconnectedSince = some time ∧
      shown.getLast? = some (.disconnectedSince time)
  once : shown.IsChain fun first second => ¬ (first.IsLoss ∧ second.IsLoss)

variable {before after : Standing} {wall : Int} {banners shown : List Indicator}

/-- A loss is announced behind an update or first of all. -/
theorem Truthful.not_isLoss (truthful : before.Truthful shown) (first : before.FirstFailure) :
    ∀ banner ∈ shown.getLast?, ¬ banner.IsLoss := by
  rintro banner last ⟨time, rfl⟩
  by_cases live : before.connected = true
  · obtain ⟨_, other, _, update⟩ := truthful.live live
    rw [update] at last
    cases last
  · have since : before.disconnectedSince = none := first.resolve_left live
    rcases truthful.lost (by simpa using live) with ⟨_, rfl⟩ | ⟨other, already, _⟩
    · cases last
    · rw [since] at already
      cases already

theorem Announces.truthful (announces : Announces before wall after banners)
    (truthful : before.Truthful shown) : after.Truthful (shown ++ banners) := by
  cases announces with
  | nothing =>
    rw [List.append_nil]
    exact truthful
  | live =>
    refine ⟨fun _ => ⟨rfl, wall, rfl, List.getLast?_concat⟩, nofun, ?_⟩
    refine List.isChain_append.mpr ⟨truthful.once, List.isChain_singleton _, ?_⟩
    rintro last _ _ ⟨⟩ ⟨_, _, impossible⟩
    cases impossible
  | lost first =>
    refine ⟨nofun, fun _ => .inr ⟨wall, rfl, List.getLast?_concat⟩, ?_⟩
    refine List.isChain_append.mpr ⟨truthful.once, List.isChain_singleton _, ?_⟩
    rintro last ends _ _ ⟨loss, _⟩
    exact truthful.not_isLoss first last ends loss

/-- Nothing is forgotten: a standing that says nothing was never another one. -/
theorem Announces.blank (announces : Announces before wall after banners) (blank : after = {}) :
    before = {} := by
  cases announces with
  | nothing => exact blank
  | live => cases blank
  | lost => cases congrArg Standing.disconnectedSince blank

/-- While no update is shown, the time of a loss stays. -/
theorem Announces.keeps {time : Int} (announces : Announces before wall after banners)
    (lost : before.connected = false) (since : before.disconnectedSince = some time)
    (silent : ∀ banner ∈ banners, banner.IsLoss) :
    after.connected = false ∧ after.disconnectedSince = some time := by
  cases announces with
  | nothing => exact ⟨lost, since⟩
  | live =>
    obtain ⟨_, impossible⟩ := silent _ List.mem_cons_self
    cases impossible
  | lost first =>
    rcases first with live | never
    · rw [lost] at live
      cases live
    · rw [since] at never
      cases never

end Standing

namespace Connection

open Standing (Announces Truthful)

variable {connection before after : Connection} {event : Event} {moment : Moment}

/-! ### What an event announces -/

/-- The banners that a run shows. -/
def banners (connection : Connection) (events : List (Event × Moment)) : List Indicator :=
  (connection.painted events).filterMap Paint.indicator?

theorem Fails.announces {paints : List Paint} (fails : Fails before moment after paints) :
    Announces before.standing moment.wall after.standing
      (paints.filterMap Paint.indicator?) := by
  rw [fails.standing, fails.paints]
  by_cases first : before.standing.FirstFailure
  · rw [if_pos first, if_pos first]
    exact .lost first
  · rw [if_neg first, if_neg first]
    exact .nothing

theorem announces_takeIn (named : connection.history.isInitialized = true)
    (snapshot : Snapshot) :
    ∃ later effects, connection.takeIn snapshot moment = .ok (later, effects) ∧
      Announces connection.standing moment.wall later.standing
        ((effects.filterMap Effect.paint?).filterMap Paint.indicator?) := by
  by_cases shown : connection.lastApplied = some snapshot
  · refine ⟨(connection.confirm moment).1, (connection.confirm moment).2, if_pos shown, ?_⟩
    unfold confirm
    split
    · exact .nothing
    · exact .live
  · obtain ⟨applied, done, _⟩ := History.apply_ok named snapshot
    obtain ⟨effects, equal, paints⟩ := apply_paints moment done
    refine ⟨_, effects, (if_neg shown).trans equal, ?_⟩
    rw [paints]
    cases applied.recorded <;> exact .live

theorem announces_progress (named : connection.history.isInitialized = true) {generation : Nat}
    (current : connection.isCurrent generation = true) (chunk : Bytes) :
    Announces connection.standing moment.wall
      (connection.step (.progress generation chunk) moment).connection.standing
      ((connection.step (.progress generation chunk) moment).paints.filterMap
        Paint.indicator?) := by
  cases read : Stream.decodeLatest (connection.buffer ++ chunk) with
  | ok decoded =>
    obtain ⟨later, effects, taken, announces⟩ := @announces_takeIn
      { connection.receive chunk moment with
        buffer := (connection.buffer ++ chunk).drop decoded.offset } moment named decoded.snapshot
    simp only [step, progress_decoded moment current read, taken]
    exact announces
  | error error =>
    cases more : error.isIncomplete with
    | true =>
      have incomplete : error = .incomplete := by
        cases error <;> first | rfl | cases more
      subst incomplete
      simp only [step, progress_incomplete moment current read]
      exact .nothing
    | false =>
      simp only [step, progress_failed moment current more read]
      exact (fails_fail (connection.receive chunk moment) (.decode error) moment).announces

/-- Whatever happens, the standing and the banner change in step. -/
theorem announces_step (named : connection.Named) (event : Event) (moment : Moment) :
    Announces connection.standing moment.wall (connection.step event moment).connection.standing
      ((connection.step event moment).paints.filterMap Paint.indicator?) := by
  by_cases futile : connection.Futile moment event
  · obtain ⟨same, silent⟩ := step_futile futile
    rw [same, silent]
    exact .nothing
  cases event with
  | track entities =>
    have fresh : connection.history.isInitialized = false := by simpa [Futile] using futile
    obtain ⟨history, notices, done, _⟩ := track_fresh fresh entities
    simp only [step, done, Outcome.ofResult, Outcome.paints, filterMap_paint?_record]
    exact .nothing
  | connect =>
    have ready : connection.history.isInitialized = true := by simpa [Futile] using futile
    simp only [step, connect, if_pos ready]
    exact .nothing
  | progress generation chunk =>
    have current : connection.isCurrent generation = true := by simpa [Futile] using futile
    exact announces_progress (named ((connection.isCurrent_iff generation).mp current).1) current
      chunk
  | requestError generation error =>
    have current : connection.isCurrent generation = true := by simpa [Futile] using futile
    simp only [step, requestError, if_pos current]
    exact (fails_fail connection (.request error) moment).announces
  | complete generation =>
    have current : connection.isCurrent generation = true := by simpa [Futile] using futile
    simp only [step, complete, if_pos current]
    cases connection.received with
    | true => exact .nothing
    | false => exact (fails_fail connection (.request .emptyResponse) moment).announces
  | watchdogDue =>
    have due : connection.watchdog.isDue moment.now = true := by simpa [Futile] using futile
    cases wanted : connection.inFlight with
    | false =>
      simp only [step, connection.watchdogDue_unwanted moment due wanted]
      exact .nothing
    | true =>
      simp only [step, connection.watchdogDue_wanted moment due wanted]
      exact (fails_fail _ (.stalled connection.timeout) moment).announces
  | disconnect =>
    have live : connection.standing.connected = true := by simpa [Futile] using futile
    simp only [step, disconnect, live]
    exact .lost (.inl live)
  | shutdown => exact .nothing

/-! ### Runs -/

theorem banners_concat (connection : Connection) (events : List (Event × Moment)) (event : Event)
    (moment : Moment) :
    connection.banners (events ++ [(event, moment)]) = connection.banners events ++
      ((connection.run events).step event moment).paints.filterMap Paint.indicator? := by
  rw [banners, painted, gather_concat, List.filterMap_append]
  rfl

theorem truthful_run (timeout : Nat) (events : List (Event × Moment)) :
    Truthful ((new timeout).run events).standing ((new timeout).banners events) := by
  induction events using List.reverseRecOn with
  | nil => exact ⟨nofun, fun _ => .inl ⟨rfl, rfl⟩, .nil⟩
  | append_singleton events event inductionHypothesis =>
    obtain ⟨event, moment⟩ := event
    have named := run_named (new_named timeout) events
    rw [run_append, banners_concat]
    exact (announces_step named event moment).truthful inductionHypothesis

/-- As long as nothing is known of the server, nothing ever was. -/
theorem blank_of_run (named : connection.Named) {events : List (Event × Moment)}
    (blank : (connection.run events).standing = {}) : connection.standing = {} := by
  induction events generalizing connection with
  | nil => exact blank
  | cons event rest inductionHypothesis =>
    have later := inductionHypothesis ((shift_step event.2 event.1 named).named named) blank
    exact (announces_step named event.1 event.2).blank later

theorem Fails.not_blank {paints : List Paint} (fails : Fails before moment after paints) :
    after.standing ≠ {} := by
  intro blank
  have standing := fails.standing
  rw [blank] at standing
  by_cases first : before.standing.FirstFailure
  · rw [if_pos first] at standing
    cases congrArg Standing.disconnectedSince standing
  · rw [if_neg first] at standing
    exact first (standing ▸ .inr rfl)

theorem connected_of_decoded (moment : Moment) (named : connection.Named) {snapshot : Snapshot}
    (brought : connection.decoded? event = some snapshot) :
    (connection.step event moment).connection.standing.connected = true := by
  obtain ⟨generation, chunk, rfl, current, decoded, read, _⟩ := decoded?_eq_some brought
  obtain ⟨history, standing, effects, taken, _, live⟩ := takeIn_ok
    { connection.receive chunk moment with
      buffer := (connection.buffer ++ chunk).drop decoded.offset } moment
    (named ((connection.isCurrent_iff generation).mp current).1) decoded.snapshot
  simp only [step, progress_decoded moment current read, taken]
  exact live

variable {timeout : Nat} {events : List (Event × Moment)}

theorem decodes_of_blank (blank : ((new timeout).run events).standing = {}) :
    (new timeout).decodes events = [] := by
  induction events using List.reverseRecOn with
  | nil => rfl
  | append_singleton events event inductionHypothesis =>
    obtain ⟨event, moment⟩ := event
    have named := run_named (new_named timeout) events
    rw [run_append] at blank
    rw [decodes, gather_concat, ← decodes,
      inductionHypothesis ((announces_step named event moment).blank blank), List.nil_append]
    cases brought : ((new timeout).run events).decoded? event with
    | none => rfl
    | some snapshot =>
      have live := connected_of_decoded moment named brought
      have gone : (((new timeout).run events).step event moment).connection.standing = {} := blank
      rw [gone] at live
      cases live

theorem not_breaks_of_blank (blank : ((new timeout).run events).standing = {})
    {earlier later : List (Event × Moment)}
    (split : events = earlier ++ (event, moment) :: later) :
    ¬ Breaks timeout earlier moment event := by
  intro breaks
  have named := run_named (new_named timeout) earlier
  rw [split, run_append, run_cons] at blank
  exact breaks.fails.not_blank (blank_of_run ((shift_step moment event named).named named) blank)

theorem since_of_run {time : Int} (named : connection.Named)
    (lost : connection.standing.connected = false)
    (since : connection.standing.disconnectedSince = some time)
    (silent : ∀ banner ∈ connection.banners events, banner.IsLoss) :
    (connection.run events).standing.disconnectedSince = some time := by
  induction events generalizing connection with
  | nil => exact since
  | cons event rest inductionHypothesis =>
    rw [banners, painted, gather, List.filterMap_append] at silent
    obtain ⟨now, after⟩ := List.forall_mem_append.mp silent
    obtain ⟨lostStill, sinceStill⟩ :=
      (announces_step named event.1 event.2).keeps lost since now
    exact inductionHypothesis ((shift_step event.2 event.1 named).named named) lostStill sinceStill
      after

/-- While the server is there, no loss is on record and the banner shown last gives the time
of the last update. While it is not, either no request ever broke, no snapshot was ever
brought and no banner shown, or the banner shown last gives the loss on record. Between two
losses that are shown there is an update, and while no update is shown the time of a loss
stays what it is. -/
theorem banner_truthful (timeout : Nat) (events : List (Event × Moment)) :
    let standing := ((new timeout).run events).standing
    let shown := (new timeout).banners events
    (standing.connected = true → standing.disconnectedSince = none ∧
        ∃ time, standing.lastUpdate = some time ∧ shown.getLast? = some (.lastUpdate time)) ∧
      (standing.connected = false →
        ((∀ earlier event moment later, events = earlier ++ (event, moment) :: later →
            ¬ Breaks timeout earlier moment event) ∧
          (new timeout).decodes events = [] ∧ standing.disconnectedSince = none ∧ shown = []) ∨
        ∃ time, standing.disconnectedSince = some time ∧
          shown.getLast? = some (.disconnectedSince time)) ∧
      shown.IsChain (fun first second => ¬ (first.IsLoss ∧ second.IsLoss)) ∧
      ∀ earlier later time, events = earlier ++ later →
        ((new timeout).run earlier).standing.disconnectedSince = some time →
        (∀ banner ∈ ((new timeout).run earlier).banners later, banner.IsLoss) →
          standing.disconnectedSince = some time := by
  intro standing shown
  have truthful : Truthful standing shown := truthful_run timeout events
  refine ⟨truthful.live, fun lost => ?_, truthful.once, ?_⟩
  · rcases truthful.lost lost with ⟨blank, nothing⟩ | known
    · refine .inl ⟨?_, decodes_of_blank blank, by rw [blank], nothing⟩
      exact fun earlier event moment later split => not_breaks_of_blank blank split
    · exact .inr known
  · intro earlier later time split since silent
    have lost : ((new timeout).run earlier).standing.connected = false := by
      by_contra live
      rw [((truthful_run timeout earlier).live (by simpa using live)).1] at since
      cases since
    have kept := since_of_run (run_named (new_named timeout) earlier) lost since silent
    rw [← run_append, ← split] at kept
    exact kept

/-- A live connection that is lost at second 4; the next attempt fails too, at second 9. -/
theorem banner_truthful_failed_again :
    let earlier : List (Event × Moment) := [(.track ["pump"], ⟨0, 0⟩), (.connect, ⟨0, 0⟩),
      (.progress 1 (Utf8.encode "\x7b\"timestamp\":1,\"pump\":\"on\"\x7d"), ⟨20, 3⟩),
      (.watchdogDue, ⟨120, 4⟩)]
    let later : List (Event × Moment) := [(.connect, ⟨220, 5⟩), (.complete 2, ⟨250, 9⟩)]
    let standing := ((new 100).run (earlier ++ later)).standing
    standing.connected = false ∧ standing.disconnectedSince = some 4 ∧
      ((new 100).banners (earlier ++ later)).getLast? = some (.disconnectedSince 4) := by
  intro earlier later standing
  obtain ⟨_, lost, _, kept⟩ := banner_truthful 100 (earlier ++ later)
  have silent : ((new 100).run earlier).banners later = [] := rfl
  have since : standing.disconnectedSince = some 4 :=
    kept earlier later 4 rfl rfl (by rw [silent]; nofun)
  refine ⟨rfl, since, ?_⟩
  rcases lost rfl with ⟨_, _, never, _⟩ | ⟨time, other, shown⟩
  · rw [since] at never
    cases never
  · obtain rfl := Option.some.inj (since.symm.trans other)
    exact shown

end Connection

end TreeWatch
