/-
This file says what a JSON value is here. Integers that fit 64 bits, signed or
unsigned, stay exact; every other number is a float. The members of an object are
kept in rising order of keys, and where a text repeats a key its last member counts.
-/

import TreeWatch.SortedMap

namespace TreeWatch

namespace Json

/-- A number as a text denotes it. -/
inductive Number where
  /-- An integer between `-2 ^ 63` and `2 ^ 64 - 1`. -/
  | int (value : Int)
  | float (value : Float)

/-- The number as a signed 64-bit integer, unless it is a float or too large. -/
def Number.int64? : Number → Option Int64
  | .int value =>
    if Int64.minValue.toInt ≤ value ∧ value ≤ Int64.maxValue.toInt then
      some (Int64.ofInt value)
    else none
  | .float _ => none

end Json

/-- A JSON value. -/
inductive Json where
  | null
  | bool (value : Bool)
  | number (value : Json.Number)
  | string (value : String)
  | list (items : List Json)
  | object (members : List (String × Json))

namespace Json

/-- The octets between tokens that carry no meaning. -/
def isBlank (byte : UInt8) : Bool :=
  byte == 0x20 || byte == 0x09 || byte == 0x0a || byte == 0x0d

end Json

end TreeWatch
