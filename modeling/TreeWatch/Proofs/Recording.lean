/-
This file says which snapshots of a sequence are shown and which are recorded, apart from
any connection. A snapshot that repeats the one right before it is neither. Every other one
is shown, and it is recorded if none before it is newer. A history decides this by looking
at its last recorded snapshot only; that one is never older than anything that came before
(`newest_recordable`), so the two judgements agree.
-/

import Mathlib.Data.List.Destutter
import Mathlib.Data.List.Induction
import TreeWatch.History

namespace TreeWatch

/-- No snapshot among the earlier ones is newer. -/
def Snapshot.Newest (snapshot : Snapshot) (earlier : List Snapshot) : Prop :=
  ∀ other ∈ earlier, other.timestamp ≤ snapshot.timestamp

instance (snapshot : Snapshot) (earlier : List Snapshot) : Decidable (snapshot.Newest earlier) :=
  inferInstanceAs (Decidable (∀ other ∈ earlier, other.timestamp ≤ snapshot.timestamp))

theorem Snapshot.newest_concat {snapshot last : Snapshot} {decoded : List Snapshot} :
    snapshot.Newest (decoded ++ [last]) ↔
      snapshot.Newest decoded ∧ last.timestamp ≤ snapshot.timestamp := by
  simp [Newest, or_imp, forall_and]

theorem Snapshot.Newest.mono {snapshot last : Snapshot} {decoded : List Snapshot}
    (newest : last.Newest decoded) (above : last.timestamp ≤ snapshot.timestamp) :
    snapshot.Newest decoded :=
  fun other member => Int64.le_trans (newest other member) above

/-- What is not newest itself is older than whatever is. -/
theorem Snapshot.Newest.above {snapshot last : Snapshot} {decoded : List Snapshot}
    (newest : snapshot.Newest decoded) (older : ¬ last.Newest decoded) :
    last.timestamp ≤ snapshot.timestamp := by
  simp only [Newest, not_forall] at older
  obtain ⟨other, member, later⟩ := older
  exact Int64.le_trans (Int64.le_of_lt (Int64.not_le.mp later)) (newest other member)

namespace History

/-- The snapshots to record of some that come behind earlier ones: each that does not repeat
the one before it and than which none before it is newer. -/
def recordable (earlier : List Snapshot) : List Snapshot → List Snapshot
  | [] => []
  | snapshot :: later =>
    if earlier.getLast? ≠ some snapshot ∧ snapshot.Newest earlier then
      snapshot :: recordable (earlier ++ [snapshot]) later
    else recordable (earlier ++ [snapshot]) later

variable {snapshot : Snapshot}

theorem recordable_append (earlier first second : List Snapshot) :
    recordable earlier (first ++ second) =
      recordable earlier first ++ recordable (earlier ++ first) second := by
  induction first generalizing earlier with
  | nil => rw [List.nil_append, List.append_nil, recordable, List.nil_append]
  | cons head first inductionHypothesis =>
    rw [List.cons_append, recordable, recordable, inductionHypothesis, List.append_assoc,
      List.singleton_append]
    split <;> rfl

theorem recordable_singleton (earlier : List Snapshot) (snapshot : Snapshot) :
    recordable earlier [snapshot] =
      if earlier.getLast? ≠ some snapshot ∧ snapshot.Newest earlier then [snapshot] else [] := by
  rw [recordable, recordable]

theorem recordable_concat (decoded : List Snapshot) (snapshot : Snapshot) :
    recordable [] (decoded ++ [snapshot]) = recordable [] decoded ++
      if decoded.getLast? ≠ some snapshot ∧ snapshot.Newest decoded then [snapshot] else [] := by
  rw [recordable_append, List.nil_append, recordable_singleton]

/-- Suppose that the last of some kept snapshots decides what is newest. It still does after
one more came, if this is kept only where it is newest itself, and else has its match among
the earlier ones. -/
theorem newest_grown {kept decoded : List Snapshot} {last : Snapshot} {keep : Prop}
    [Decidable keep] (new : keep → last.Newest decoded)
    (matched : ¬ keep → snapshot.Newest decoded → last.timestamp ≤ snapshot.timestamp)
    (decides : (∀ held ∈ kept.getLast?, held.timestamp ≤ snapshot.timestamp) ↔
      snapshot.Newest decoded) :
    (∀ held ∈ (kept ++ if keep then [last] else []).getLast?,
      held.timestamp ≤ snapshot.timestamp) ↔ snapshot.Newest (decoded ++ [last]) := by
  rw [Snapshot.newest_concat]
  by_cases taken : keep
  · rw [if_pos taken, List.getLast?_concat]
    constructor
    · intro above
      have later := above last rfl
      exact ⟨(new taken).mono later, later⟩
    · rintro ⟨_, later⟩ other equal
      exact Option.some.inj equal ▸ later
  · rw [if_neg taken, List.append_nil, decides]
    exact ⟨fun newest => ⟨newest, matched taken newest⟩, And.left⟩

/-- A snapshot is newest among all decoded ones if it is no older than the last recorded. -/
theorem newest_recordable (decoded : List Snapshot) :
    (∀ last ∈ (recordable [] decoded).getLast?, last.timestamp ≤ snapshot.timestamp) ↔
      snapshot.Newest decoded := by
  induction decoded using List.reverseRecOn with
  | nil => simp [recordable, Snapshot.Newest]
  | append_singleton decoded last inductionHypothesis =>
    rw [recordable_concat]
    refine newest_grown And.right (fun skipped newest => ?_) inductionHypothesis
    -- What is not recorded repeats an earlier snapshot or is older than one.
    by_cases again : decoded.getLast? = some last
    · exact newest last (List.mem_of_getLast? again)
    · exact newest.above fun is => skipped ⟨again, is⟩

end History

/-- Whether one more item is kept is decided by the last one alone. -/
theorem destutter_concat {α : Type} [DecidableEq α] (items : List α) (item : α) :
    (items ++ [item]).destutter (· ≠ ·) =
      items.destutter (· ≠ ·) ++ if items.getLast? = some item then [] else [item] := by
  cases items with
  | nil => rfl
  | cons first items =>
    rw [List.cons_append, List.destutter_cons', List.destutter_cons']
    induction items generalizing first with
    | nil =>
      by_cases same : first = item <;> simp [List.destutter', same]
    | cons second items inductionHypothesis =>
      rw [List.cons_append, List.getLast?_cons_cons]
      by_cases same : first = second
      · subst same
        rw [List.destutter'_cons_neg (h := by simp), List.destutter'_cons_neg (h := by simp)]
        exact inductionHypothesis first
      · rw [List.destutter'_cons_pos (h := same), List.destutter'_cons_pos (h := same),
          inductionHypothesis second, List.cons_append]

end TreeWatch
