/-
This file proves that building a table from pairs that already rise strictly gives
those pairs back. A snapshot's entities are such pairs, so writing them as members of
an object and collecting them again changes nothing.
-/

import Mathlib.Data.List.Induction
import TreeWatch.SortedMap

namespace TreeWatch

variable {α β : Type}

theorem SortedMap.get?_eq_none {table : SortedMap α} {key : String} (absent : key ∉ table.keys) :
    table.get? key = none := by
  refine List.lookup_eq_none_iff.mpr fun pair member => ?_
  rw [bne_iff_ne]
  rintro rfl
  exact absent (List.mem_map_of_mem member)

theorem SortedMap.mem_keys_iff {table : SortedMap α} {key : String} :
    key ∈ table.keys ↔ ∃ value, table.get? key = some value := by
  refine ⟨fun member => ?_, fun ⟨value, found⟩ => ?_⟩
  · obtain ⟨pair, inside, rfl⟩ := List.mem_map.mp member
    refine Option.ne_none_iff_exists'.mp fun absent => ?_
    simpa using List.lookup_eq_none_iff.mp absent pair inside
  · refine Decidable.byContradiction fun absent => ?_
    rw [get?_eq_none absent] at found
    cases found

namespace Entries

/-- A table in which some keys all have the same value. -/
theorem lookup_foldl_put_const (keys : List String) (value : α) (entries : Entries α)
    (sought : String) :
    ((keys.map (·, value)).foldl (fun entries pair => entries.put pair.1 pair.2) entries).lookup
      sought = if sought ∈ keys then some value else entries.lookup sought := by
  induction keys generalizing entries with
  | nil => rfl
  | cons key keys inductionHypothesis =>
    rw [List.map_cons, List.foldl_cons, inductionHypothesis, lookup_put]
    by_cases among : sought ∈ keys
    · rw [if_pos among, if_pos (List.mem_cons_of_mem _ among)]
    · by_cases equal : sought = key <;> simp [among, equal]

/-- Every pair of a table is one of those it was built from. -/
theorem mem_of_mem_ofPairs {pairs : List (String × α)} {pair : String × α}
    (member : pair ∈ ofPairs pairs) : pair ∈ pairs := by
  induction pairs using List.reverseRecOn with
  | nil => exact member
  | append_singleton pairs last inductionHypothesis =>
    rw [ofPairs, List.foldl_append] at member
    rcases mem_put member with rfl | old
    · exact List.mem_concat_self
    · exact List.mem_append_left _ (inductionHypothesis old)

theorem isSome_lookup_iff {entries : Entries α} {key : String} :
    (entries.lookup key).isSome = true ↔ key ∈ entries.map Prod.fst := by
  simp [List.lookup_isSome_iff]

/-- A key that was not there before can be left out again. -/
theorem filter_put {key : String} {entries : Entries α} (absent : key ∉ entries.map Prod.fst)
    (value : α) : (entries.put key value).filter (fun pair => pair.1 != key) = entries := by
  have kept (entries : Entries α) (absent : key ∉ entries.map Prod.fst) :
      entries.filter (fun pair => pair.1 != key) = entries :=
    List.filter_eq_self.mpr fun pair member => bne_iff_ne.mpr fun equal =>
      absent (equal ▸ List.mem_map_of_mem member)
  induction entries with
  | nil => exact List.filter_cons_of_neg (by simp)
  | cons head rest inductionHypothesis =>
    obtain ⟨name, held⟩ := head
    have apart := absent
    rw [List.map_cons, List.mem_cons, not_or] at apart
    unfold put
    split
    · rw [List.filter_cons_of_neg (by simp), kept _ absent]
    · have other : name ≠ key := Ne.symm apart.1
      rw [if_neg apart.1, List.filter_cons_of_pos (by simp [other]), inductionHypothesis apart.2]

theorem sorted_map (f : α → β) {pairs : Entries α} (sorted : Sorted pairs) :
    Sorted (pairs.map fun pair => (pair.1, f pair.2)) := by
  unfold Sorted
  rw [List.map_map]
  exact sorted

theorem sorted_filter (keep : String × α → Bool) {pairs : Entries α} (sorted : Sorted pairs) :
    Sorted (pairs.filter keep) :=
  sorted.sublist (List.filter_sublist.map Prod.fst)

theorem lookup_filter_ne (name sought : String) (pairs : Entries α) :
    (pairs.filter fun pair => pair.1 != name).lookup sought =
      if sought = name then none else pairs.lookup sought := by
  induction pairs with
  | nil => rw [List.filter_nil, List.lookup_nil, ite_self]
  | cons head rest inductionHypothesis =>
    by_cases named : head.1 = name
    · rw [List.filter_cons_of_neg (by simp [named]), inductionHypothesis, lookup_cons_ite, named]
      split <;> rfl
    · rw [List.filter_cons_of_pos (by simp [named]), lookup_cons_ite, lookup_cons_ite,
        inductionHypothesis]
      by_cases equal : sought = head.1
      · rw [if_pos equal, if_neg (equal ▸ named), if_pos equal]
      · rw [if_neg equal, if_neg equal]

/-- Writing pairs with different keys one after the other. -/
theorem lookup_foldl_put {pairs : Entries α} (sorted : Sorted pairs) (entries : Entries α)
    (sought : String) :
    (pairs.foldl (fun entries pair => entries.put pair.1 pair.2) entries).lookup sought =
      (pairs.lookup sought).or (entries.lookup sought) := by
  induction pairs generalizing entries with
  | nil => rfl
  | cons head rest inductionHypothesis =>
    obtain ⟨above, restSorted⟩ := sorted_cons.mp sorted
    rw [List.foldl_cons, inductionHypothesis restSorted, lookup_put, lookup_cons_ite]
    by_cases equal : sought = head.1
    · rw [if_pos equal, if_pos equal, equal, lookup_eq_none_of_forall_lt above]
      rfl
    · rw [if_neg equal, if_neg equal]

theorem ofPairs_of_sorted {pairs : Entries α} (sorted : Sorted pairs) : ofPairs pairs = pairs := by
  refine eq_of_lookup_eq (sorted_ofPairs pairs) sorted fun sought => ?_
  rw [ofPairs, lookup_foldl_put sorted, List.lookup_nil, Option.or_none]

end Entries

theorem SortedMap.get?_ofList_const (keys : List String) (value : α) (key : String) :
    (ofList (keys.map (·, value))).get? key = if key ∈ keys then some value else none :=
  Entries.lookup_foldl_put_const keys value [] key

theorem SortedMap.mem_keys_ofList_const (keys : List String) (value : α) (key : String) :
    key ∈ (ofList (keys.map (·, value))).keys ↔ key ∈ keys := by
  rw [mem_keys_iff, get?_ofList_const]
  split
  · next among => exact ⟨fun _ => among, fun _ => ⟨value, rfl⟩⟩
  · next absent => exact ⟨nofun, fun among => absurd among absent⟩

end TreeWatch
