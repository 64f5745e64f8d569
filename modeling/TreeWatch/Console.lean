/-
This file shows paints on a console, one line per entity. A status is shown by the
name of its node state where its colour is known. A history is a strip of the newest
samples with one letter per sample. The console may refuse to take more text; the
rest of that paint is then given up and the refusal recorded.
-/

import TreeWatch.Paint
import TreeWatch.NodeState

namespace TreeWatch

namespace Console

/-- The letter of a status in a strip. -/
def glyph : Status → Char
  | .unknown => '.'
  | .value colour =>
    match NodeState.ofColor? colour with
    | some .idle => 'I'
    | some .running => 'R'
    | some .success => 'S'
    | some .failure => 'F'
    | none => '?'

/-- A text filled up with spaces to twelve characters. -/
def padded (text : String) : String :=
  text ++ String.ofList (List.replicate (12 - text.length) ' ')

/-- The line of one entity. -/
def line (entity : EntityId) (content : String) : String :=
  "  " ++ padded entity ++ " " ++ content

/-- What a status is called. -/
def label (status : Status) : String :=
  match NodeState.ofColor? status.color with
  | some state => state.name
  | none => status.label

/-- The newest samples of a series, at most `width` of them, as a strip. -/
def strip (width : Nat) (series : Series) : String :=
  String.ofList ((series.drop (series.length - width)).map fun sample => glyph sample.status)

/-- The lines of a paint. -/
def lines (width : Nat) : Paint → List String
  | .current statuses => statuses.entries.map fun entry => line entry.1 (label entry.2)
  | .history series => series.entries.map fun entry => line entry.1 (strip width entry.2)
  | .indicator indicator => [indicator.text]

end Console

/-- Text that has been shown, and how many octets of it can be held. -/
structure Sink where
  shown : String := ""
  capacity : Option Nat := none

namespace Sink

/-- Takes a piece of text whole or not at all. -/
def write (sink : Sink) (piece : String) : Sink × Bool :=
  let fits := match sink.capacity with
    | some capacity => decide (sink.shown.utf8ByteSize + piece.utf8ByteSize ≤ capacity)
    | none => true
  if fits then ({ sink with shown := sink.shown ++ piece }, true) else (sink, false)

/-- Takes lines one after the other, each in two pieces, up to the first refusal. -/
def writeLines (sink : Sink) : List String → Sink × Bool
  | [] => (sink, true)
  | line :: rest =>
    match sink.write line with
    | (sink, false) => (sink, false)
    | (sink, true) =>
      match sink.write "\n" with
      | (sink, false) => (sink, false)
      | (sink, true) => sink.writeLines rest

/-- Shows a paint, with a strip of the given width. -/
def paint (sink : Sink) (width : Nat) (shown : Paint) : Sink × List Notice :=
  match sink.writeLines (Console.lines width shown) with
  | (sink, true) => (sink, [])
  | (sink, false) => (sink, [.warn "Failed to write to console" [("error", "sink full")]])

end Sink

end TreeWatch
