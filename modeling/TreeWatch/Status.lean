/-
This file says what the condition of one entity is. The system does not interpret
it: a status is any text, in practice a colour, or unknown when the server did not
mention the entity.
-/

import TreeWatch.Json.Printer

namespace TreeWatch

/-- Names one node of the diagram. -/
abbrev EntityId := String

/-- The condition of one entity. -/
inductive Status where
  /-- The server said nothing about the entity. -/
  | unknown
  | value (text : String)
  deriving DecidableEq, Repr

namespace Status

/-- The colour painted where nothing is known. -/
def unknownColor : String := "#eeeeee"

/-- The status a JSON value stands for: texts are kept as they are, `null` is
unknown, and anything else is kept as its compact text. -/
def ofJson : Json → Status
  | .null => unknown
  | .string text => value text
  | other => value other.text

def isUnknown : Status → Bool
  | unknown => true
  | value _ => false

/-- The colour to paint. -/
def color : Status → String
  | unknown => unknownColor
  | value text => text

/-- The text shown to people. -/
def label : Status → String
  | unknown => "unknown"
  | value text => text

/-- The JSON text of a status. -/
def wire : Status → String
  | unknown => "null"
  | value text => Json.quote text

end Status

end TreeWatch
