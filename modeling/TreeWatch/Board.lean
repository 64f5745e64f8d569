/-
This file defines the board the server publishes on. It holds the newest snapshot
only: every publication replaces the one before it as a whole, so an entity that the
new snapshot leaves out is no longer reported.
-/

import TreeWatch.Notice
import TreeWatch.Snapshot

namespace TreeWatch

/-- What the server shows to everyone who asks. -/
structure Board where
  /-- The entities of the served diagram. -/
  entities : List EntityId := []
  /-- The newest snapshot, if anything was published. -/
  latest : Option Snapshot := none

/-- Replaces the newest snapshot. -/
def Board.publish (board : Board) (snapshot : Snapshot) : Board × List Notice :=
  ({ board with latest := some snapshot },
    [.debug "Publishing snapshot"
      [("timestamp", toString snapshot.timestamp.toInt),
        ("statuses", toString snapshot.statuses.size)]])

end TreeWatch
