/-
This file lists the states a behaviour-tree node can return, with the name each has
in logs and the colour it is painted in.
-/

import TreeWatch.Json.Shape

namespace TreeWatch

/-- The return state of a behaviour-tree node. -/
inductive NodeState where
  | idle
  | running
  | success
  | failure
  deriving DecidableEq, Repr

namespace NodeState

def all : List NodeState := [idle, running, success, failure]

/-- The name as it stands in logs. -/
def name : NodeState → String
  | idle => "IDLE"
  | running => "RUNNING"
  | success => "SUCCESS"
  | failure => "FAILURE"

/-- The colour the node is painted in. -/
def color : NodeState → String
  | idle => "#9999FF"
  | running => "#FFFF99"
  | success => "#99FF99"
  | failure => "#FF9999"

/-- The state of a name, which must be spelled exactly. -/
def ofName? (text : String) : Option NodeState := all.find? (·.name == text)

/-- The state of a colour; the case of letters does not matter. -/
def ofColor? (text : String) : Option NodeState :=
  let lower (colour : String) : List Char := colour.toList.map Char.toLower
  all.find? fun state => lower state.color == lower text

/-- Reads a state: its name, or an object with the name as only key. -/
def reader : Json.Reader NodeState := Json.Reader.choice (all.map name) ofName?

/-- The JSON text of a state. -/
def wire (state : NodeState) : String := Json.quote state.name

theorem ofName?_name (state : NodeState) : ofName? state.name = some state := by
  cases state <;> decide +kernel

end NodeState

end TreeWatch
