/-
This file defines the records the system keeps about its own doings. A record is a
sentence with a few named details, and is shown on one line.
-/

namespace TreeWatch

/-- How much a record matters. -/
inductive Severity where
  | debug
  | info
  | warn
  deriving DecidableEq, Repr

/-- One record, with its details in the order they are shown. -/
structure Notice where
  severity : Severity
  message : String
  details : List (String × String) := []
  deriving DecidableEq, Repr

namespace Notice

def Severity.text : Severity → String
  | .debug => "DEBUG"
  | .info => "INFO"
  | .warn => "WARN"

/-- The line shown for a record. -/
def text (notice : Notice) : String :=
  Severity.text notice.severity ++ " " ++ notice.message ++
    String.join (notice.details.map fun detail => " " ++ detail.1 ++ "=" ++ detail.2)

def debug (message : String) (details : List (String × String) := []) : Notice :=
  { severity := .debug, message, details }

def info (message : String) (details : List (String × String) := []) : Notice :=
  { severity := .info, message, details }

def warn (message : String) (details : List (String × String) := []) : Notice :=
  { severity := .warn, message, details }

end Notice

end TreeWatch
