/-
This file proves what a log message comes to. It is refused for its time or else for the first
change that names no state; otherwise it describes exactly one snapshot, in which the nodes that
changed are the entities and each has the colour of its last change (`toSnapshot_eq_iff`).
Checking and painting read the names of states on their own. Painting would pass over a wrong
name, but a message that holds one is refused before.
-/

import Mathlib.Data.List.Basic
import TreeWatch.Proofs.Tables
import TreeWatch.TickLog

namespace TreeWatch

/-! ### Names of states and of nodes -/

theorem NodeState.name_injective : Function.Injective NodeState.name := by
  intro first second same
  have found := ofName?_name first
  rw [same, ofName?_name] at found
  exact (Option.some.inj found).symm

theorem NodeState.ofName?_eq_some_iff {text : String} {state : NodeState} :
    ofName? text = some state ↔ text = state.name := by
  constructor
  · intro found
    have same := List.find?_some found
    exact (beq_iff_eq.mp same).symm
  · rintro rfl
    exact ofName?_name state

namespace StatusChange

/-- The status of a change is the name of a state. -/
def Names (change : StatusChange) (state : NodeState) : Prop := change.currentStatus = state.name

theorem ofName?_isNone_iff {change : StatusChange} :
    (NodeState.ofName? change.currentStatus).isNone = true ↔ ∀ state, ¬ change.Names state := by
  rw [Option.isNone_iff_eq_none, Option.eq_none_iff_forall_ne_some]
  exact forall_congr' fun state => not_congr NodeState.ofName?_eq_some_iff

end StatusChange

namespace TickLog

/-- The entity of a node. -/
def entityOf (uid : UInt64) : EntityId := toString uid.toNat

theorem entityOf_injective : Function.Injective entityOf := by
  intro first second same
  have digits (uid : UInt64) : Nat.ofDigitChars 10 (entityOf uid).toList 0 = uid.toNat := by
    rw [entityOf, Nat.toString_eq_repr, Nat.toList_repr,
      Nat.ofDigitChars_toDigits (by decide) (by decide)]
  exact UInt64.toNat_inj.mp (by rw [← digits first, same, digits second])

/-! ### What changes show -/

variable {changes : List StatusChange} {change : StatusChange} {statuses : SortedMap Status}

/-- Some change is the last one of its node, and puts it in this state. -/
def EndsIn (changes : List StatusChange) (uid : UInt64) (state : NodeState) : Prop :=
  ∃ before change after, changes = before ++ change :: after ∧ change.uid = some uid ∧
    change.Names state ∧ ∀ other ∈ after, other.uid ≠ some uid

theorem endsIn_concat {uid : UInt64} {state : NodeState} :
    EndsIn (changes ++ [change]) uid state ↔
      if change.uid = some uid then change.Names state else EndsIn changes uid state := by
  constructor
  · rintro ⟨before, ending, after, split, about, names, last⟩
    rcases List.eq_nil_or_concat' after with rfl | ⟨rest, final, rfl⟩
    · obtain ⟨-, same⟩ := List.append_inj' split rfl
      obtain rfl := List.singleton_inj.mp same
      rw [if_pos about]
      exact names
    · have regrouped : changes ++ [change] = (before ++ ending :: rest) ++ [final] := by
        rw [split, List.append_assoc, List.cons_append]
      obtain ⟨earlier, same⟩ := List.append_inj' regrouped rfl
      obtain rfl := List.singleton_inj.mp same
      rw [if_neg (last change List.mem_concat_self)]
      exact ⟨before, ending, rest, earlier, about, names,
        fun other member => last other (List.mem_append_left _ member)⟩
  · split
    · next about => exact fun names => ⟨changes, change, [], rfl, about, names, nofun⟩
    · next other =>
      rintro ⟨before, ending, after, rfl, about, names, last⟩
      refine ⟨before, ending, after ++ [change], by simp, about, names, fun later member => ?_⟩
      rcases List.mem_append.mp member with earlier | final
      · exact last later earlier
      · exact List.mem_singleton.mp final ▸ other

/-- A node that changed ended in some state if all changes name states. -/
theorem exists_endsIn (named : ∀ change ∈ changes, ∃ state, change.Names state) {uid : UInt64}
    (changed : ∃ change ∈ changes, change.uid = some uid) : ∃ state, EndsIn changes uid state := by
  induction changes using List.reverseRecOn with
  | nil =>
    obtain ⟨_, member, _⟩ := changed
    cases member
  | append_singleton changes last inductionHypothesis =>
    by_cases about : last.uid = some uid
    · obtain ⟨state, names⟩ := named last List.mem_concat_self
      exact ⟨state, endsIn_concat.mpr (by rwa [if_pos about])⟩
    · obtain ⟨change, member, uidSame⟩ := changed
      have earlier : change ∈ changes := by
        rcases List.mem_append.mp member with earlier | final
        · exact earlier
        · exact absurd (List.mem_singleton.mp final ▸ uidSame) about
      obtain ⟨state, ends⟩ := inductionHypothesis
        (fun other member => named other (List.mem_append_left _ member)) ⟨change, earlier, uidSame⟩
      exact ⟨state, endsIn_concat.mpr (by rwa [if_neg about])⟩

/-- These are the statuses that some changes show: the entities are the nodes that changed, and
each has the colour of the state it ended in. -/
structure Shows (changes : List StatusChange) (statuses : SortedMap Status) : Prop where
  entities : ∀ entity, entity ∈ statuses.keys ↔
    ∃ change ∈ changes, ∃ uid, change.uid = some uid ∧ entity = entityOf uid
  colours : ∀ uid state, EndsIn changes uid state →
    statuses.get? (entityOf uid) = some (.value state.color)

/-- Changes that all name states show one thing only. -/
theorem Shows.unique {other : SortedMap Status} (shows : Shows changes statuses)
    (named : ∀ change ∈ changes, ∃ state, change.Names state) (also : Shows changes other) :
    statuses = other := by
  refine SortedMap.ext_get? fun entity => ?_
  by_cases among : entity ∈ statuses.keys
  · obtain ⟨change, member, uid, about, rfl⟩ := (shows.entities entity).mp among
    obtain ⟨state, ends⟩ := exists_endsIn named ⟨change, member, about⟩
    rw [shows.colours uid state ends, also.colours uid state ends]
  · have absent : entity ∉ other.keys := fun found =>
      among ((shows.entities entity).mpr ((also.entities entity).mp found))
    rw [SortedMap.get?_eq_none among, SortedMap.get?_eq_none absent]

theorem shows_nil : Shows [] .empty := by
  refine ⟨fun entity => ⟨nofun, ?_⟩, ?_⟩
  · rintro ⟨_, member, _⟩
    cases member
  · rintro uid state ⟨before, ending, after, split, _⟩
    simp at split

variable {snapshot : Snapshot}

/-- A change that has no node is not shown. -/
theorem Shows.unplaced (shows : Shows changes snapshot.statuses) (unplaced : change.uid = none) :
    Shows (changes ++ [change]) (paintChange snapshot change).statuses := by
  have same : paintChange snapshot change = snapshot := by simp [paintChange, unplaced]
  rw [same]
  constructor
  · intro entity
    simp [shows.entities, or_and_right, exists_or, unplaced]
  · intro uid state ends
    rw [endsIn_concat, unplaced, if_neg nofun] at ends
    exact shows.colours uid state ends

/-- A change of a node takes the place of what was shown of this node. -/
theorem Shows.placed (shows : Shows changes snapshot.statuses) {uid : UInt64} {state : NodeState}
    (about : change.uid = some uid) (names : change.Names state) :
    Shows (changes ++ [change]) (paintChange snapshot change).statuses := by
  have painted : (paintChange snapshot change).statuses =
      snapshot.statuses.insert (entityOf uid) (.value state.color) := by
    simp only [paintChange, about, NodeState.ofName?_eq_some_iff.mpr names]
    rfl
  rw [painted]
  constructor
  · intro entity
    have key : entity ∈ (snapshot.statuses.insert (entityOf uid) (.value state.color)).keys ↔
        entity ∈ snapshot.statuses.keys ∨ entity = entityOf uid := by
      rw [SortedMap.mem_keys_iff, SortedMap.mem_keys_iff, SortedMap.get?_insert]
      by_cases same : entity = entityOf uid <;> simp [same]
    rw [key, shows.entities]
    simp [or_and_right, exists_or, about]
  · intro sought found ends
    rw [SortedMap.get?_insert]
    rw [endsIn_concat, about] at ends
    by_cases same : uid = sought
    · subst same
      rw [if_pos rfl] at ends
      rw [if_pos rfl, NodeState.name_injective (names.symm.trans ends)]
    · rw [if_neg fun equal => same (Option.some.inj equal)] at ends
      rw [if_neg fun equal => same (entityOf_injective equal).symm]
      exact shows.colours sought found ends

/-- Painting changes that all name states one after the other shows them. -/
theorem shows_painted (named : ∀ change ∈ changes, ∃ state, change.Names state)
    (timestamp : Int64) :
    Shows changes (changes.foldl paintChange { timestamp }).statuses := by
  induction changes using List.reverseRecOn with
  | nil => exact shows_nil
  | append_singleton changes last inductionHypothesis =>
    have shows := inductionHypothesis fun change member =>
      named change (List.mem_append_left _ member)
    rw [List.foldl_append, List.foldl_cons, List.foldl_nil]
    cases about : last.uid with
    | none => exact shows.unplaced about
    | some uid =>
      obtain ⟨state, names⟩ := named last List.mem_concat_self
      exact shows.placed about names

theorem timestamp_painted (changes : List StatusChange) (snapshot : Snapshot) :
    (changes.foldl paintChange snapshot).timestamp = snapshot.timestamp := by
  induction changes generalizing snapshot with
  | nil => rfl
  | cons change changes inductionHypothesis =>
    rw [List.foldl_cons, inductionHypothesis, paintChange]
    split <;> rfl

/-! ### What a message comes to -/

variable {log : TickLog}

/-- This is the first change whose status names no state. -/
def FirstNameless (changes : List StatusChange) (change : StatusChange) : Prop :=
  ∃ before after, changes = before ++ change :: after ∧
    (∀ other ∈ before, ∃ state, other.Names state) ∧ ∀ state, ¬ change.Names state

/-- What a message comes to: it is refused, or describes a snapshot. -/
inductive ComesTo (log : TickLog) : Except ValidationError Snapshot → Prop where
  /-- Its time is negative. -/
  | negative (time : log.timestamp < 0) : ComesTo log (.error (.invalidTimestamp log.timestamp))
  /-- Some change, with a node or without, names no state. -/
  | nameless {change : StatusChange} (time : 0 ≤ log.timestamp)
      (first : FirstNameless log.changes change) :
      ComesTo log (.error (.unknownStatus change.currentStatus))
  | described {snapshot : Snapshot} (time : 0 ≤ log.timestamp)
      (named : ∀ change ∈ log.changes, ∃ state, change.Names state)
      (timestamp : snapshot.timestamp = log.timestamp)
      (shows : Shows log.changes snapshot.statuses) : ComesTo log (.ok snapshot)

theorem find?_eq_some_iff_firstNameless :
    (changes.find? fun change => (NodeState.ofName? change.currentStatus).isNone) = some change ↔
      FirstNameless changes change := by
  simp only [List.find?_eq_some_iff_append, Bool.not_eq_true', ← Bool.not_eq_true,
    StatusChange.ofName?_isNone_iff, not_forall, not_not, FirstNameless]
  constructor
  · rintro ⟨nameless, before, after, split, named⟩
    exact ⟨before, after, split, named, nameless⟩
  · rintro ⟨before, after, split, named, nameless⟩
    exact ⟨nameless, before, after, split, named⟩

theorem find?_eq_none_iff_named :
    (changes.find? fun change => (NodeState.ofName? change.currentStatus).isNone) = none ↔
      ∀ change ∈ changes, ∃ state, change.Names state := by
  simp only [List.find?_eq_none, StatusChange.ofName?_isNone_iff, not_forall, not_not]

/-- The first change without a name for its state is the only one. -/
theorem FirstNameless.unique {other : StatusChange} (first : FirstNameless changes change)
    (also : FirstNameless changes other) : change = other := by
  rw [← find?_eq_some_iff_firstNameless] at first also
  exact Option.some.inj (first.symm.trans also)

theorem FirstNameless.not_named (first : FirstNameless changes change) :
    ¬ ∀ change ∈ changes, ∃ state, change.Names state := by
  rintro named
  obtain ⟨before, after, rfl, -, nameless⟩ := first
  obtain ⟨state, names⟩ := named change (List.mem_append_right _ List.mem_cons_self)
  exact nameless state names

theorem comesTo_toSnapshot (log : TickLog) : log.ComesTo log.toSnapshot := by
  unfold toSnapshot validate
  by_cases time : log.timestamp < 0
  · rw [if_pos time]
    exact .negative time
  · rw [if_neg time]
    have time : 0 ≤ log.timestamp := Int64.not_lt.mp time
    cases found : log.changes.find? fun change =>
        (NodeState.ofName? change.currentStatus).isNone with
    | some change => exact .nameless time (find?_eq_some_iff_firstNameless.mp found)
    | none =>
      have named := find?_eq_none_iff_named.mp found
      exact .described time named (timestamp_painted log.changes _) (shows_painted named _)

/-- A message comes to one thing only. -/
theorem ComesTo.unique {first second : Except ValidationError Snapshot}
    (comes : log.ComesTo first) (also : log.ComesTo second) : first = second := by
  cases comes with
  | negative time =>
    cases also with
    | negative => rfl
    | nameless later | described later => exact absurd time (Int64.not_lt.mpr later)
  | nameless time first =>
    cases also with
    | negative negative => exact absurd negative (Int64.not_lt.mpr time)
    | nameless _ also => rw [first.unique also]
    | described _ named => exact absurd named first.not_named
  | @described snapshot time named timestamp shows =>
    cases also with
    | negative negative => exact absurd negative (Int64.not_lt.mpr time)
    | nameless _ first => exact absurd named first.not_named
    | @described other _ _ also same =>
      obtain ⟨_, _⟩ := snapshot
      obtain ⟨_, _⟩ := other
      obtain rfl := timestamp.trans also.symm
      obtain rfl := shows.unique named same
      rfl

/-- A message is refused for a negative time, whatever its changes, or else for the first change,
with a node or without, that names no state. Otherwise it describes the one snapshot of its time
in which the entities are the nodes that changed and each has the colour of its last change.
Different nodes are different entities. -/
theorem toSnapshot_eq_iff (log : TickLog) (result : Except ValidationError Snapshot) :
    (log.toSnapshot = result ↔ log.ComesTo result) ∧ Function.Injective entityOf :=
  ⟨⟨fun same => same ▸ comesTo_toSnapshot log, (comesTo_toSnapshot log).unique⟩,
    entityOf_injective⟩

/-- The node with the greatest number changes twice, and a change in between has no node. Where
the latter names no state the message is refused. -/
theorem toSnapshot_eq_iff_greatest_uid :
    let changes (status : String) : List StatusChange :=
      [{ uid := some 18446744073709551615, currentStatus := "RUNNING" },
        { currentStatus := status },
        { uid := some 18446744073709551615, currentStatus := "SUCCESS" }]
    ComesTo ⟨5, changes "IDLE"⟩
        (.ok ⟨5, .ofList [("18446744073709551615", .value "#99FF99")]⟩) ∧
      ComesTo ⟨0, changes "idle"⟩ (.error (.unknownStatus "idle")) := by
  intro changes
  exact ⟨(toSnapshot_eq_iff ⟨5, changes "IDLE"⟩ _).1.mp (by decide +kernel),
    (toSnapshot_eq_iff ⟨0, changes "idle"⟩ _).1.mp (by decide +kernel)⟩

end TickLog

end TreeWatch
