/-
This file provides the one kind of table used throughout: text keys, each at most
once, in rising order. Statuses, histories and the members of JSON objects are all
listed by key, and two tables that answer every lookup alike are the same table
(`SortedMap.ext_get?`), so comparing two snapshots is comparing two values.

Keys are ordered code point by code point, which is also the order of their UTF-8
octets.
-/

namespace TreeWatch

/-- Key and value pairs; the operations below keep them in rising order of keys. -/
abbrev Entries (α : Type) := List (String × α)

namespace Entries

variable {α β : Type}

/-- Writes the value of one key, in place of the one it had. -/
def put (key : String) (value : α) : Entries α → Entries α
  | [] => [(key, value)]
  | (other, held) :: rest =>
    if key < other then (key, value) :: (other, held) :: rest
    else if key = other then (key, value) :: rest
    else (other, held) :: put key value rest

/-- The table of a list of pairs; where a key repeats the last value counts. -/
def ofPairs (pairs : List (String × α)) : Entries α :=
  pairs.foldl (fun entries pair => entries.put pair.1 pair.2) []

/-- Strictly rising keys. -/
def Sorted (entries : Entries α) : Prop :=
  (entries.map Prod.fst).Pairwise (· < ·)

/-! ### Order of keys -/

theorem lt_of_not_lt_of_ne {first second : String} (notBelow : ¬ first < second)
    (different : first ≠ second) : second < first := by
  by_cases above : second < first
  · exact above
  · exact absurd (String.le_antisymm (String.not_lt.mp above) (String.not_lt.mp notBelow)) different

theorem ne_of_lt {first second : String} (below : first < second) : first ≠ second := by
  rintro rfl
  exact String.lt_irrefl _ below

theorem sorted_cons {head : String × α} {rest : Entries α} :
    Sorted (head :: rest) ↔ (∀ pair ∈ rest, head.1 < pair.1) ∧ Sorted rest := by
  simp [Sorted]

theorem mem_put {key : String} {value : α} {entries : Entries α} {pair : String × α}
    (member : pair ∈ put key value entries) : pair = (key, value) ∨ pair ∈ entries := by
  induction entries with
  | nil => simpa [put] using member
  | cons head rest inductionHypothesis =>
    obtain ⟨other, held⟩ := head
    unfold put at member
    split at member
    · simpa using member
    · split at member
      · rcases List.mem_cons.mp member with equal | inRest
        · exact .inl equal
        · exact .inr (List.mem_cons_of_mem _ inRest)
      · rcases List.mem_cons.mp member with equal | inRest
        · exact .inr (equal ▸ List.mem_cons_self)
        · rcases inductionHypothesis inRest with equal | old
          · exact .inl equal
          · exact .inr (List.mem_cons_of_mem _ old)

theorem sorted_put {key : String} {value : α} {entries : Entries α} (sorted : Sorted entries) :
    Sorted (put key value entries) := by
  induction entries with
  | nil => simp [put, Sorted]
  | cons head rest inductionHypothesis =>
    obtain ⟨other, held⟩ := head
    obtain ⟨above, restSorted⟩ := sorted_cons.mp sorted
    unfold put
    split
    · next below =>
      refine sorted_cons.mpr ⟨fun pair member => ?_, sorted⟩
      rcases List.mem_cons.mp member with rfl | inRest
      · exact below
      · exact String.lt_trans below (above pair inRest)
    · next notBelow =>
      split
      · next equal =>
        subst equal
        exact sorted_cons.mpr ⟨above, restSorted⟩
      · next different =>
        refine sorted_cons.mpr ⟨fun pair member => ?_, inductionHypothesis restSorted⟩
        rcases mem_put member with rfl | old
        · exact lt_of_not_lt_of_ne notBelow different
        · exact above pair old

theorem sorted_ofPairs (pairs : List (String × α)) : Sorted (ofPairs pairs) := by
  suffices general : ∀ entries : Entries α, Sorted entries →
      Sorted (pairs.foldl (fun entries pair => entries.put pair.1 pair.2) entries) from
    general [] (by simp [Sorted])
  induction pairs with
  | nil => exact fun _ sorted => sorted
  | cons head rest inductionHypothesis =>
    exact fun entries sorted => inductionHypothesis _ (sorted_put sorted)

/-! ### Lookup -/

theorem lookup_cons_ite (head : String × α) (rest : Entries α) (sought : String) :
    (head :: rest).lookup sought = if sought = head.1 then some head.2 else rest.lookup sought := by
  obtain ⟨key, value⟩ := head
  by_cases equal : sought = key
  · simp [equal]
  · simp [List.lookup_cons, equal, beq_false_of_ne equal]

theorem lookup_put (key : String) (value : α) (entries : Entries α) (sought : String) :
    (put key value entries).lookup sought =
      if sought = key then some value else entries.lookup sought := by
  induction entries with
  | nil => by_cases equal : sought = key <;> simp [put, lookup_cons_ite, equal]
  | cons head rest inductionHypothesis =>
    obtain ⟨other, held⟩ := head
    unfold put
    split
    · by_cases equal : sought = key <;> simp [lookup_cons_ite, equal]
    · split
      · next same =>
        subst same
        by_cases equal : sought = key <;> simp [lookup_cons_ite, equal]
      · next different =>
        by_cases atOther : sought = other
        · subst atOther
          simp [Ne.symm different]
        · simp [lookup_cons_ite, atOther, inductionHypothesis]

theorem lookup_map (f : String → α → β) (entries : Entries α) (sought : String) :
    (entries.map fun pair => (pair.1, f pair.1 pair.2)).lookup sought =
      (entries.lookup sought).map (f sought) := by
  induction entries with
  | nil => rfl
  | cons head rest inductionHypothesis =>
    by_cases equal : sought = head.1 <;>
      simp [lookup_cons_ite, equal, inductionHypothesis]

theorem lookup_eq_none_of_forall_lt {entries : Entries α} {key : String}
    (above : ∀ pair ∈ entries, key < pair.1) : entries.lookup key = none := by
  induction entries with
  | nil => rfl
  | cons head rest inductionHypothesis =>
    have different : key ≠ head.1 := ne_of_lt (above head List.mem_cons_self)
    simp [lookup_cons_ite, different,
      inductionHypothesis fun pair member => above pair (List.mem_cons_of_mem _ member)]

/-- Two tables in rising order that answer every lookup alike are equal. -/
theorem eq_of_lookup_eq {first second : Entries α} (firstSorted : Sorted first)
    (secondSorted : Sorted second) (alike : ∀ key, first.lookup key = second.lookup key) :
    first = second := by
  induction first generalizing second with
  | nil =>
    cases second with
    | nil => rfl
    | cons head rest => simpa [lookup_cons_ite] using alike head.1
  | cons head rest inductionHypothesis =>
    obtain ⟨key, value⟩ := head
    cases second with
    | nil => simpa [lookup_cons_ite] using alike key
    | cons otherHead otherRest =>
      obtain ⟨otherKey, otherValue⟩ := otherHead
      obtain ⟨above, restSorted⟩ := sorted_cons.mp firstSorted
      obtain ⟨otherAbove, otherRestSorted⟩ := sorted_cons.mp secondSorted
      have same : key = otherKey := by
        by_cases equal : key = otherKey
        · exact equal
        · by_cases below : key < otherKey
          · have missing : ((otherKey, otherValue) :: otherRest).lookup key = none :=
              lookup_eq_none_of_forall_lt fun pair member => by
                rcases List.mem_cons.mp member with rfl | inRest
                · exact below
                · exact String.lt_trans below (otherAbove pair inRest)
            have answer := alike key
            rw [missing] at answer
            simp at answer
          · have less := lt_of_not_lt_of_ne below equal
            have missing : ((key, value) :: rest).lookup otherKey = none :=
              lookup_eq_none_of_forall_lt fun pair member => by
                rcases List.mem_cons.mp member with rfl | inRest
                · exact less
                · exact String.lt_trans less (above pair inRest)
            have answer := alike otherKey
            rw [missing] at answer
            simp at answer
      subst same
      have values := alike key
      simp at values
      subst values
      rw [inductionHypothesis restSorted otherRestSorted fun sought => ?_]
      by_cases equal : sought = key
      · subst equal
        rw [lookup_eq_none_of_forall_lt above, lookup_eq_none_of_forall_lt otherAbove]
      · simpa [lookup_cons_ite, equal] using alike sought

end Entries

/-- A table from text keys to values, listed in rising order of keys. -/
structure SortedMap (α : Type) where
  /-- The pairs, each key once, in rising order. -/
  entries : Entries α := []
  sorted : Entries.Sorted entries := by simp [Entries.Sorted]
  deriving DecidableEq

namespace SortedMap

variable {α β : Type}

def empty : SortedMap α := {}

instance : Inhabited (SortedMap α) := ⟨empty⟩

/-- Writes the value of one key, in place of the one it had. -/
def insert (table : SortedMap α) (key : String) (value : α) : SortedMap α :=
  ⟨table.entries.put key value, Entries.sorted_put table.sorted⟩

/-- The table of a list of pairs; where a key repeats the last value counts. -/
def ofList (pairs : List (String × α)) : SortedMap α :=
  ⟨Entries.ofPairs pairs, Entries.sorted_ofPairs pairs⟩

def get? (table : SortedMap α) (key : String) : Option α := table.entries.lookup key

def keys (table : SortedMap α) : List String := table.entries.map Prod.fst

def values (table : SortedMap α) : List α := table.entries.map Prod.snd

def size (table : SortedMap α) : Nat := table.entries.length

/-- The table with the same keys whose values are computed from key and value. -/
def mapWithKey (f : String → α → β) (table : SortedMap α) : SortedMap β :=
  ⟨table.entries.map fun pair => (pair.1, f pair.1 pair.2), by
    have same : (table.entries.map fun pair => (pair.1, f pair.1 pair.2)).map Prod.fst =
        table.entries.map Prod.fst := by simp
    unfold Entries.Sorted
    rw [same]
    exact table.sorted⟩

/-! ### One lookup law per operation -/

@[simp] theorem get?_empty (key : String) : (empty : SortedMap α).get? key = none := rfl

@[simp] theorem get?_insert (table : SortedMap α) (key : String) (value : α) (sought : String) :
    (table.insert key value).get? sought =
      if sought = key then some value else table.get? sought :=
  Entries.lookup_put key value table.entries sought

theorem ext_entries {first second : SortedMap α} (equal : first.entries = second.entries) :
    first = second := by
  cases first
  cases second
  cases equal
  rfl

/-- Tables that answer every lookup alike are the same table. -/
theorem ext_get? {first second : SortedMap α} (alike : ∀ key, first.get? key = second.get? key) :
    first = second :=
  ext_entries (Entries.eq_of_lookup_eq first.sorted second.sorted alike)

@[simp] theorem keys_mapWithKey (f : String → α → β) (table : SortedMap α) :
    (table.mapWithKey f).keys = table.keys := by
  simp [keys, mapWithKey]

@[simp] theorem get?_mapWithKey (f : String → α → β) (table : SortedMap α) (key : String) :
    (table.mapWithKey f).get? key = (table.get? key).map (f key) :=
  Entries.lookup_map f table.entries key

end SortedMap

end TreeWatch
