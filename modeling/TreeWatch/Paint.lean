/-
This file says what the core hands to a display. It never draws anything itself: it
emits paints in order, and a display turns each of them into whatever it shows.
-/

import TreeWatch.History

namespace TreeWatch

/-- The banner next to the diagram. Times are seconds since 1970. -/
inductive Indicator where
  | lastUpdate (time : Int)
  | disconnectedSince (time : Int)
  deriving DecidableEq, Repr

/-- Something to show. -/
inductive Paint where
  /-- The current status of every tracked entity. -/
  | current (statuses : SortedMap Status)
  /-- The samples of every tracked entity. -/
  | history (series : SortedMap Series)
  | indicator (indicator : Indicator)
  deriving DecidableEq

namespace Indicator

/-- A number below one hundred with two digits. -/
def twoDigits (value : Nat) : List Char :=
  [Nat.digitChar (value / 10 % 10), Nat.digitChar (value % 10)]

/-- The time of day of a second since 1970. -/
def timeOfDay (time : Int) : String :=
  let second := (time % 86400).toNat
  String.ofList (twoDigits (second / 3600) ++ ':' :: twoDigits (second / 60 % 60) ++
    ':' :: twoDigits (second % 60))

def text : Indicator → String
  | lastUpdate time => "Last update: " ++ timeOfDay time
  | disconnectedSince time => "Disconnected since: " ++ timeOfDay time

end Indicator

end TreeWatch
