/-
This file keeps what the tracked entities were seen to do. The entities are fixed once at
the start, and each has a row of samples. A snapshot that is recorded gives every row one
sample at its end, unknown where the snapshot does not mention the entity, and nothing is
ever dropped. A snapshot older than the one recorded last is not recorded, so times never
fall from one sample of a row to the next.
-/

import TreeWatch.Snapshot
import TreeWatch.Notice

namespace TreeWatch

/-- Use of a history in the wrong order. -/
inductive InitializationError where
  | notInitialized
  | alreadyInitialized
  deriving DecidableEq, Repr

def InitializationError.message : InitializationError → String
  | notInitialized => "history store used before initialize"
  | alreadyInitialized => "history store initialized twice"

/-- The status of one entity at one moment of the server's clock. -/
structure Sample where
  timestamp : Int64
  status : Status
  deriving DecidableEq

/-- The samples of one entity, oldest first. -/
abbrev Series := List Sample

/-- What is known about the past. -/
inductive History where
  /-- The entities have not been named yet. -/
  | uninitialized
  /-- Each entity has its row, and the time of the snapshot recorded last is known. -/
  | tracking (rows : SortedMap Series) (last? : Option Int64)
  deriving DecidableEq

namespace History

/-- What recording a snapshot did. -/
structure Applied where
  history : History
  recorded : Bool
  notices : List Notice

/-- Names the entities to track, once. -/
def track (history : History) (entities : List EntityId) :
    Except InitializationError (History × List Notice) :=
  match history with
  | uninitialized =>
    let rows := SortedMap.ofList (entities.map fun entity => (entity, ([] : Series)))
    .ok (tracking rows none,
      [.debug "History store initialized" [("entities", toString rows.size)]])
  | tracking _ _ => .error .alreadyInitialized

def isInitialized : History → Bool
  | uninitialized => false
  | tracking _ _ => true

/-- Gives every row the sample that its entity has in a snapshot. -/
def extend (rows : SortedMap Series) (snapshot : Snapshot) : SortedMap Series :=
  rows.mapWithKey fun entity series =>
    series ++ [⟨snapshot.timestamp, snapshot.statusOf entity⟩]

/-- Records a snapshot unless it is older than the one recorded last. -/
def apply (history : History) (snapshot : Snapshot) : Except InitializationError Applied :=
  match history with
  | uninitialized => .error .notInitialized
  | tracking rows last? =>
    match last?.filter fun last => snapshot.timestamp < last with
    | some last =>
      .ok
        { history := tracking rows last?
          recorded := false
          notices := [.warn "Snapshot older than history, not recorded"
            [("timestamp", toString snapshot.timestamp.toInt),
              ("last_timestamp", toString last.toInt)]] }
    | none => .ok ⟨tracking (extend rows snapshot) (some snapshot.timestamp), true, []⟩

/-- All series; none before the entities are named. -/
def all : History → SortedMap Series
  | uninitialized => .empty
  | tracking rows _ => rows

/-- The tracked entities. -/
def entities (history : History) : SortedMap Unit := history.all.mapWithKey fun _ _ => ()

/-- The status of every tracked entity in a snapshot. -/
def current (history : History) (snapshot : Snapshot) : SortedMap Status :=
  history.entities.mapWithKey fun entity _ => snapshot.statusOf entity

/-- The series of one entity, if it is tracked. -/
def series? (history : History) (entity : EntityId) : Option Series :=
  history.all.get? entity

/-- The number of samples in every series; zero if nothing is tracked. -/
def length (history : History) : Nat :=
  match history.all.values with
  | [] => 0
  | series :: _ => series.length

def isEmpty (history : History) : Bool := history.length == 0

end History

end TreeWatch
