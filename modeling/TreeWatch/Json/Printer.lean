/-
This file writes JSON values without blanks, members in the order they are kept.
-/

import TreeWatch.Json.Text
import TreeWatch.Json.Number

namespace TreeWatch.Json

mutual

/-- The compact text of a value. -/
def text : Json → String
  | .null => "null"
  | .bool true => "true"
  | .bool false => "false"
  | .number value => value.text
  | .string value => quote value
  | .list items => "[" ++ itemsText items ++ "]"
  | .object members => "\x7b" ++ membersText members ++ "\x7d"

/-- Items separated by commas. -/
def itemsText : List Json → String
  | [] => ""
  | [item] => text item
  | item :: rest => text item ++ "," ++ itemsText rest

/-- Members separated by commas. -/
def membersText : List (String × Json) → String
  | [] => ""
  | [(key, value)] => quote key ++ ":" ++ text value
  | (key, value) :: rest => quote key ++ ":" ++ text value ++ "," ++ membersText rest

end

end TreeWatch.Json
