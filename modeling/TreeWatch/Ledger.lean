/-
This file reports paints as records instead of drawing them, and numbers the status
paints it has seen.
-/

import TreeWatch.Paint

namespace TreeWatch

/-- A display that only keeps records. -/
structure Ledger where
  /-- The status paints so far. -/
  paints : Nat := 0
  deriving DecidableEq, Repr

/-- Reports a paint. -/
def Ledger.paint (ledger : Ledger) : Paint → Ledger × List Notice
  | .current statuses =>
    let paints := ledger.paints + 1
    let unknown := statuses.values.countP Status.isUnknown
    ({ paints },
      .info "Current statuses"
        [("entities", toString statuses.size), ("unknown", toString unknown),
          ("paint", toString paints)] ::
      statuses.entries.map fun entry =>
        .debug "Status" [("entity", entry.1), ("status", entry.2.label)])
  | .history series =>
    let samples := match series.values with
      | [] => 0
      | first :: _ => first.length
    (ledger, [.debug "History updated"
      [("entities", toString series.size), ("samples", toString samples)]])
  | .indicator indicator => (ledger, [.info indicator.text])

end TreeWatch
