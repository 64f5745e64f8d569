/-
This file finds the shortest decimal that reads back as a given binary number.
A number held with a fixed count of binary digits stands for every real between
the midpoints to its two neighbours. Among the decimals in that interval those
with the fewest digits are wanted, and of these the one nearest to the number
itself. Everything is exact arithmetic on natural numbers.
-/

namespace TreeWatch.Decimal

/-- A positive binary number `mantissa · 2 ^ exponent`, as a 64-bit float holds it. -/
structure Binary where
  mantissa : Nat
  exponent : Int
  /-- The neighbour below lies half as far away as the neighbour above. -/
  narrowBelow : Bool
  deriving Repr, DecidableEq

/-- A decimal `digits · 10 ^ exponent`. -/
structure Scientific where
  digits : Nat
  exponent : Int
  deriving Repr, DecidableEq

/-- The magnitude of a finite float that is not zero. Below the normal range the
leading binary digit is not implied and the exponent stays at its least. -/
def Binary.ofFloat (value : Float) : Binary :=
  let bits : Nat := value.toBits.toNat
  let implied := Nat.pow 2 52
  let fraction := bits % implied
  let scale := bits / implied % Nat.pow 2 11
  if scale = 0 then ⟨fraction, -1074, false⟩
  else ⟨implied + fraction, (scale : Int) - 1075, fraction = 0 && 1 < scale⟩

/-- The rounding interval of a binary number over one denominator: all decimals
strictly between `low` and `high` read back as it, and the two ends do if `closed`. -/
structure Interval where
  low : Nat
  value : Nat
  high : Nat
  denominator : Nat
  closed : Bool

/-- The interval between the midpoints to the neighbours, in quarters of the last
binary digit. Midpoints go to the even neighbour. -/
def Binary.interval (number : Binary) : Interval :=
  let scale := number.exponent - 2
  let unit := Nat.pow 2 scale.toNat
  { low := (4 * number.mantissa - if number.narrowBelow then 1 else 2) * unit
    value := 4 * number.mantissa * unit
    high := (4 * number.mantissa + 2) * unit
    denominator := Nat.pow 2 (-scale).toNat
    closed := number.mantissa % 2 = 0 }

namespace Interval

/-- The least `count` at or above the given one for which `numerator · 10 ^ count`
reaches the denominator. -/
def leadingZeros (numerator denominator : Nat) : Nat → Nat → Nat
  | 0, count => count
  | fuel + 1, count =>
    if denominator ≤ numerator * Nat.pow 10 count then count
    else leadingZeros numerator denominator fuel (count + 1)

/-- The power of ten of the value's first digit. -/
def magnitude (interval : Interval) : Int :=
  if interval.denominator ≤ interval.value then
    ((Nat.toDigits 10 (interval.value / interval.denominator)).length : Int) - 1
  else
    -(leadingZeros interval.value interval.denominator 400 1 : Int)

/-- Whether `digits · 10 ^ exponent` reads back as the value. -/
def holds (interval : Interval) (digits : Nat) (exponent : Int) : Bool :=
  let point := digits * Nat.pow 10 exponent.toNat * interval.denominator
  let scale := Nat.pow 10 (-exponent).toNat
  let low := interval.low * scale
  let high := interval.high * scale
  if interval.closed then low ≤ point && point ≤ high else low < point && point < high

/-- The decimals with the given last place nearest to the value that read back as
it: of the one just below and the one just above the nearer, at equal distance
the one with an even last digit. -/
def nearest? (interval : Interval) (exponent : Int) : Option Nat :=
  let numerator := interval.value * Nat.pow 10 (-exponent).toNat
  let unit := Nat.pow 10 exponent.toNat * interval.denominator
  let below := numerator / unit
  let remainder := numerator % unit
  match interval.holds below exponent, interval.holds (below + 1) exponent with
  | true, false => some below
  | false, true => some (below + 1)
  | false, false => none
  | true, true =>
    if 2 * remainder < unit then some below
    else if unit < 2 * remainder then some (below + 1)
    else if below % 2 = 0 then some below else some (below + 1)

/-- Tries one more digit at a time, ending at the last place `exponent - fuel`. -/
def search (interval : Interval) : Nat → Int → Scientific
  | 0, exponent => ⟨(interval.nearest? exponent).getD 0, exponent⟩
  | fuel + 1, exponent =>
    match interval.nearest? exponent with
    | some digits => ⟨digits, exponent⟩
    | none => search interval fuel (exponent - 1)

end Interval

/-- The shortest decimal that reads back as the number; seventeen digits always do. -/
def Binary.shortest (number : Binary) : Scientific :=
  let interval := number.interval
  interval.search 17 interval.magnitude

end TreeWatch.Decimal
