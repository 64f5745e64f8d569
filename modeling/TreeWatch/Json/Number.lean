/-
This file reads and writes JSON numbers. The digits of a number are gathered into a
64-bit integer and a power of ten; digits beyond 64 bits only move the point. A
number with neither fraction nor exponent whose digits fit is exact, every other one
is a float obtained from the gathered digits by at most a few float operations. The
result is therefore not always the nearest float, but it is the same on every
machine. Like a string, a number is read one octet at a time; it ends at the first
octet that cannot belong to it.
-/

import TreeWatch.Json.Fault
import TreeWatch.Decimal.Notation

namespace TreeWatch.Json

/-! ### The shape of a number -/

/-- Where a number stands between two of its octets. -/
inductive NumberPart where
  /-- After a minus sign. -/
  | sign
  /-- After a leading zero, which no digit may follow. -/
  | zero
  /-- Inside the digits before the point. -/
  | whole
  /-- After the point. -/
  | point
  /-- Inside the digits after the point. -/
  | fraction
  /-- After the exponent mark. -/
  | mark
  /-- After the sign of the exponent. -/
  | markSign
  /-- Inside the digits of the exponent. -/
  | power
  deriving DecidableEq, Repr

def isDigit (byte : UInt8) : Bool := 0x30 ≤ byte && byte ≤ 0x39

/-- What an octet is to a number. -/
inductive PartStep where
  | more (part : NumberPart)
  /-- The number was complete before this octet. -/
  | ended
  /-- A digit is missing before this octet, or this digit is one too many. -/
  | invalid
  deriving DecidableEq, Repr

namespace NumberPart

/-- The part a number begins with, if the octet can begin one. -/
def start? (byte : UInt8) : Option NumberPart :=
  if byte == 0x2d then some .sign
  else if byte == 0x30 then some .zero
  else if isDigit byte then some .whole
  else none

/-- What may follow complete digits: a point where there was none, or an exponent. -/
def afterDigits (pointAllowed : Bool) (byte : UInt8) : PartStep :=
  if pointAllowed && byte == 0x2e then .more .point
  else if byte == 0x65 || byte == 0x45 then .more .mark
  else .ended

/-- The part after one more octet. -/
def step (part : NumberPart) (byte : UInt8) : PartStep :=
  match part with
  | .sign =>
    if byte == 0x30 then .more .zero else if isDigit byte then .more .whole else .invalid
  | .zero => if isDigit byte then .invalid else afterDigits true byte
  | .whole => if isDigit byte then .more .whole else afterDigits true byte
  | .point => if isDigit byte then .more .fraction else .invalid
  | .fraction => if isDigit byte then .more .fraction else afterDigits false byte
  | .mark =>
    if byte == 0x2b || byte == 0x2d then .more .markSign
    else if isDigit byte then .more .power else .invalid
  | .markSign => if isDigit byte then .more .power else .invalid
  | .power => if isDigit byte then .more .power else .ended

/-- Whether the text may stop here. -/
def complete : NumberPart → Bool
  | .zero | .whole | .fraction | .power => true
  | .sign | .point | .mark | .markSign => false

end NumberPart

/-! ### Floats from digits -/

/-- A power of ten as a float, correctly rounded. -/
def powerOfTen (exponent : Nat) : Float := OfScientific.ofScientific 1 false exponent

/-- Divides by a power of ten, `10 ^ 308` at a time as long as the power is larger. -/
def scaleDown (value : Float) (exponent : Nat) : Float :=
  if exponent ≤ 308 then value / powerOfTen exponent
  else if value == 0 then value
  else scaleDown (value / powerOfTen 308) (exponent - 308)
termination_by exponent

/-- The digits times a power of ten, unless that is beyond every float. -/
def floatOfDigits (digits : Nat) (exponent : Int) : Except Cause Float :=
  let value := digits.toUInt64.toFloat
  if exponent < 0 then .ok (scaleDown value exponent.natAbs)
  else if exponent ≤ 308 then
    let scaled := value * powerOfTen exponent.natAbs
    if scaled.isInf then .error .numberOutOfRange else .ok scaled
  else if value == 0 then .ok value
  else .error .numberOutOfRange

/-! ### Reading -/

/-- A number being read. -/
structure NumberScan where
  part : NumberPart
  negative : Bool := false
  /-- The digits gathered, below `2 ^ 64`. -/
  digits : Nat := 0
  /-- The power of ten that the gathered digits are to be scaled by. -/
  shift : Int := 0
  /-- Digits before the point were left out. -/
  overflowed : Bool := false
  /-- Digits after the point are being left out. -/
  truncated : Bool := false
  /-- The number has a point or an exponent. -/
  scientific : Bool := false
  /-- The exponent written, below `2 ^ 31`. -/
  power : Nat := 0
  powerNegative : Bool := false
  /-- The exponent written does not fit 31 bits. -/
  powerOverflowed : Bool := false
  deriving Repr

/-- What one octet does to a number. -/
inductive NumberStep where
  | more (scan : NumberScan)
  | ended
  | refuse (cause : Cause)

namespace NumberScan

/-- Takes a digit before the point. -/
def pushWhole (scan : NumberScan) (digit : Nat) : NumberScan :=
  let digits := scan.digits * 10 + digit
  if scan.overflowed || UInt64.size ≤ digits then
    { scan with shift := scan.shift + 1, overflowed := true }
  else { scan with digits := digits }

/-- Takes a digit after the point. -/
def pushFraction (scan : NumberScan) (digit : Nat) : NumberScan :=
  let digits := scan.digits * 10 + digit
  if scan.truncated || UInt64.size ≤ digits then { scan with truncated := true }
  else { scan with digits := digits, shift := scan.shift - 1 }

/-- Takes a digit of the exponent. One that does not fit decides the number at once:
beyond every float, or zero. -/
def pushPower (scan : NumberScan) (digit : Nat) : NumberStep :=
  let power := scan.power * 10 + digit
  if scan.powerOverflowed then .more scan
  else if power < 0x80000000 then .more { scan with power := power }
  else if scan.digits ≠ 0 ∧ ¬ scan.powerNegative then .refuse .numberOutOfRange
  else .more { scan with powerOverflowed := true }

/-- The scan after the first octet of a number. -/
def start? (byte : UInt8) : Option NumberScan :=
  (NumberPart.start? byte).map fun part =>
    { part, negative := part == .sign,
      digits := if part == .sign then 0 else byte.toNat - 0x30 }

/-- Reads one octet. -/
def step (scan : NumberScan) (byte : UInt8) : NumberStep :=
  match scan.part.step byte with
  | .ended => .ended
  | .invalid => .refuse .invalidNumber
  | .more part =>
    let scan := { scan with part }
    let digit := byte.toNat - 0x30
    match part with
    | .zero | .whole => .more (scan.pushWhole digit)
    | .fraction => .more (scan.pushFraction digit)
    | .power => scan.pushPower digit
    | .markSign => .more { scan with powerNegative := byte == 0x2d }
    | .sign | .point | .mark => .more { scan with scientific := true }

/-- The number the octets read so far denote. -/
def value (scan : NumberScan) : Except Cause Number :=
  let sign (value : Float) := if scan.negative then -value else value
  if scan.scientific || scan.overflowed then
    if scan.powerOverflowed then .ok (.float (sign 0))
    else
      let power : Int := if scan.powerNegative then -scan.power else scan.power
      (floatOfDigits scan.digits (scan.shift + power)).map fun value => .float (sign value)
  else if ¬ scan.negative then .ok (.int scan.digits)
  else if scan.digits = 0 ∨ -(scan.digits : Int) < Int64.minValue.toInt then
    .ok (.float (-scan.digits.toUInt64.toFloat))
  else .ok (.int (-scan.digits))

/-- The number that a text ending here denotes. -/
def finish (scan : NumberScan) : Except Cause Number :=
  if scan.part.complete then scan.value else .error .endInValue

/-- Reads a number after its first octet, leaving the octet that ends it. -/
def run : NumberScan → Bytes → Except Fault (Number × Bytes)
  | scan, [] =>
    match scan.finish with
    | .ok result => .ok (result, [])
    | .error cause => .error ⟨cause, 0⟩
  | scan, byte :: rest =>
    match scan.step byte with
    | .more scan => run scan rest
    | .refuse cause => .error ⟨cause, rest.length⟩
    | .ended =>
      match scan.value with
      | .ok result => .ok (result, byte :: rest)
      | .error cause => .error ⟨cause, rest.length + 1⟩

end NumberScan

/-! ### Writing -/

/-- The text of a number. -/
def Number.text : Number → String
  | .int value => toString value
  | .float value => Decimal.floatText value

end TreeWatch.Json
