/-
This file makes up snapshots for trying out the system. Chance decides for every
entity of the board whether it is left out and, if not, which node state it is in. The
draws are given from outside, so the feed itself computes the same from the same.
-/

import TreeWatch.Board
import TreeWatch.NodeState
import TreeWatch.Ticker

namespace TreeWatch

namespace Demo

/-- What chance and the clock give for one snapshot. -/
structure Draw where
  /-- Nanoseconds since 1970. -/
  clock : Int64
  /-- One outcome per entity in order; without a state the entity is left out. -/
  outcomes : List (Option NodeState)

/-- Puts one outcome into a snapshot. -/
def paintOutcome (snapshot : Snapshot) (drawn : EntityId × Option NodeState) : Snapshot :=
  match drawn.2 with
  | some state => snapshot.withStatus drawn.1 (.value state.color)
  | none => snapshot

/-- The snapshot of a draw. -/
def snapshot (entities : List EntityId) (draw : Draw) : Snapshot :=
  (entities.zip draw.outcomes).foldl paintOutcome { timestamp := draw.clock }

/-- What is noted when the feed starts. -/
def opening (board : Board) (interval : Nat) : Notice :=
  .info "Starting demo status feed"
    [("entities", toString board.entities.length), ("interval_ms", toString interval)]

/-- When the feed publishes, from its start up to and including an instant. -/
def instants (interval stopAt : Nat) : List Nat := ((Ticker.start 0 interval).ticks 0 stopAt).1

/-- Publishes the snapshots of some draws one after the other. -/
def publishAll (board : Board) : List Draw → Board × List Notice
  | [] => (board, [])
  | draw :: rest =>
    let (board, notices) := board.publish (snapshot board.entities draw)
    let (board, later) := publishAll board rest
    (board, notices ++ later)

/-- Runs the feed on a board up to an instant; `draw` gives the draw of each instant. -/
def run (board : Board) (interval stopAt : Nat) (draw : Nat → Draw) : Board × List Notice :=
  let (final, notices) := publishAll board ((instants interval stopAt).map draw)
  (final, opening board interval :: notices)

end Demo

end TreeWatch
