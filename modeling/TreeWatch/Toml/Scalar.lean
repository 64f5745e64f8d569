/-
This file tells what an unquoted word of a TOML document is: a truth value, an
integer, a float or a date. Every form is recognised as a whole.
-/

import TreeWatch.Toml.Token

namespace TreeWatch.Toml

/-- What an unquoted word can be. Floats and dates are only recognised. -/
inductive Scalar where
  | boolean (value : Bool)
  | integer (value : Int)
  | float
  | date
  /-- A date that a time may follow. -/
  | fullDate
  deriving DecidableEq, Repr

namespace Scalar

/-- The digits of a word in which single underscores may stand between digits. -/
def plainDigits? (isDigit : Char → Bool) (word : List Char) : Option (List Char) :=
  let wellFormed := word.all (fun char => isDigit char || char == '_') &&
    word.head?.any isDigit && word.getLast?.any isDigit &&
    !((word.zip (word.drop 1)).any fun pair => pair.1 == '_' && pair.2 == '_')
  if wellFormed then some (word.filter (· != '_')) else none

/-- The number written by digits of a base. -/
def number (base : Nat) (digits : List Char) : Nat :=
  digits.foldl (fun value char => value * base + (Scan.hexValue? char).getD 0) 0

/-- Splits a sign off a word; the flag is set by a minus. -/
def splitSign : List Char → Bool × List Char
  | '-' :: rest => (true, rest)
  | '+' :: rest => (false, rest)
  | word => (false, word)

/-- The digits of a decimal integer without sign. Only zero itself starts with zero. -/
def decimal? (word : List Char) : Option (List Char) := do
  let digits ← plainDigits? Char.isDigit word
  if word.head? = some '0' ∧ word.length ≠ 1 then none else pure digits

/-- An integer that fits 64 bits with sign. -/
def integer? (word : List Char) : Option Int := do
  let inBase (base : Nat) (isDigit : Char → Bool) (digits : List Char) : Option Int := do
    pure (number base (← plainDigits? isDigit digits))
  let value ← match word with
    | '0' :: 'x' :: digits => inBase 16 (fun char => (Scan.hexValue? char).isSome) digits
    | '0' :: 'o' :: digits => inBase 8 (fun char => '0' ≤ char && char ≤ '7') digits
    | '0' :: 'b' :: digits => inBase 2 (fun char => char == '0' || char == '1') digits
    | _ => do
      let (negative, digits) := splitSign word
      let magnitude : Int := number 10 (← decimal? digits)
      pure (if negative then -magnitude else magnitude)
  if Int64.minValue.toInt ≤ value ∧ value ≤ Int64.maxValue.toInt then pure value else none

/-- Whether `digits · 10 ^ exponent` is nearer to infinity than to any float. -/
def overflows (digits : List Char) (exponent : Int) : Bool :=
  let significant := digits.dropWhile (· == '0')
  let magnitude := (significant.length : Int) + exponent
  if significant.isEmpty || magnitude < 300 then false
  else if 310 < magnitude then true
  else
    (Nat.pow 2 1024 - Nat.pow 2 970) * Nat.pow 10 (-exponent).toNat ≤
      number 10 significant * Nat.pow 10 exponent.toNat

/-- Whether a word is a float: a decimal integer with a fraction or an exponent or
both, or one of the special values. A positive number must not be too large. -/
def isFloat (word : List Char) : Bool :=
  let (negative, body) := splitSign word
  if body = ['i', 'n', 'f'] ∨ body = ['n', 'a', 'n'] then true
  else
    let isMark (char : Char) : Bool := char == 'e' || char == 'E'
    let mantissa := body.takeWhile (!isMark ·)
    let mark := body.dropWhile (!isMark ·)
    let whole := mantissa.takeWhile (· != '.')
    let fraction := mantissa.dropWhile (· != '.')
    let parts := do
      let whole ← decimal? whole
      let fraction ← match fraction with
        | [] => if mark.isEmpty then none else some []
        | _ :: digits => plainDigits? Char.isDigit digits
      let power ← match mark with
        | [] => some 0
        | _ :: power => do
          let (below, digits) := splitSign power
          let magnitude : Int := number 10 (← plainDigits? Char.isDigit digits)
          pure (if below then -magnitude else magnitude)
      pure (whole ++ fraction, power - fraction.length)
    match parts with
    | some (digits, exponent) => negative || !overflows digits exponent
    | none => false

/-! ### Dates -/

/-- A number of exactly the given count of digits, and the rest. -/
def fixedNumber? (count : Nat) (word : List Char) : Option (Nat × List Char) :=
  let digits := word.take count
  if digits.length = count ∧ digits.all Char.isDigit then
    some (number 10 digits, word.drop count)
  else none

def daysInMonth (year month : Nat) : Nat :=
  if month = 2 then
    if year % 4 = 0 ∧ (year % 100 ≠ 0 ∨ year % 400 = 0) then 29 else 28
  else if month = 4 ∨ month = 6 ∨ month = 9 ∨ month = 11 then 30
  else 31

/-- Takes a date of the calendar. -/
def takeDate? (word : List Char) : Option (List Char) := do
  let (year, rest) ← fixedNumber? 4 word
  let rest ← if rest.head? = some '-' then some (rest.drop 1) else none
  let (month, rest) ← fixedNumber? 2 rest
  let rest ← if rest.head? = some '-' then some (rest.drop 1) else none
  let (day, rest) ← fixedNumber? 2 rest
  if 1 ≤ month ∧ month ≤ 12 ∧ 1 ≤ day ∧ day ≤ daysInMonth year month then some rest
  else none

/-- Takes hours and minutes. -/
def takeHourMinute? (word : List Char) : Option (List Char) := do
  let (hour, rest) ← fixedNumber? 2 word
  let rest ← if rest.head? = some ':' then some (rest.drop 1) else none
  let (minute, rest) ← fixedNumber? 2 rest
  if hour ≤ 23 ∧ minute ≤ 59 then some rest else none

/-- Takes a time of day; the second may be a leap second. -/
def takeTime? (word : List Char) : Option (List Char) := do
  let rest ← takeHourMinute? word
  let rest ← if rest.head? = some ':' then some (rest.drop 1) else none
  let (second, rest) ← fixedNumber? 2 rest
  if second ≤ 60 then
    match rest with
    | '.' :: fraction =>
      if fraction.head?.any Char.isDigit then some (fraction.dropWhile Char.isDigit) else none
    | _ => some rest
  else none

/-- Whether a word is an offset from universal time, or empty. -/
def isOffset : List Char → Bool
  | [] => true
  | ['Z'] | ['z'] => true
  | '+' :: rest | '-' :: rest => takeHourMinute? rest = some []
  | _ => false

/-- Whether a word is a time of day, with an offset if that is allowed. -/
def isTime (offsetAllowed : Bool) (word : List Char) : Bool :=
  match takeTime? word with
  | some rest => if offsetAllowed then isOffset rest else rest.isEmpty
  | none => false

/-- What a word is if it is a date, a time, or both joined by a `T`. -/
def date? (word : List Char) : Option Scalar :=
  match takeDate? word with
  | some [] => some .fullDate
  | some (joint :: time) =>
    if (joint == 'T' || joint == 't') && isTime true time then some .date else none
  | none => if isTime false word then some .date else none

/-- What a word is. -/
def ofWord? (word : List Char) : Option Scalar :=
  if word = ['t', 'r', 'u', 'e'] then some (.boolean true)
  else if word = ['f', 'a', 'l', 's', 'e'] then some (.boolean false)
  else
    match integer? word with
    | some value => some (.integer value)
    | none => if isFloat word then some .float else date? word

end Scalar

end TreeWatch.Toml
