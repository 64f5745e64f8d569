/-
This file writes a float as text: its shortest digits, placed. Numbers whose first
digit stands between the fifth place after the point and the sixteenth before it
are written out in full and always show a fraction; all others are written with
an exponent that carries its sign.
-/

import TreeWatch.Decimal.Shortest

namespace TreeWatch.Decimal

/-- Removes zeros at the end of the digits, counting them into the exponent. -/
def trimZeros (digits : List Char) (exponent : Int) : List Char × Int :=
  let reversed := digits.reverse
  let kept := reversed.dropWhile (· == '0')
  (kept.reverse, exponent + (reversed.length - kept.length : Nat))

/-- Digits with the first one at the power of ten `magnitude`, in full. -/
def positional (digits : List Char) (magnitude : Int) : List Char :=
  if magnitude < 0 then
    ['0', '.'] ++ List.replicate (-magnitude - 1).toNat '0' ++ digits
  else
    let whole := magnitude.toNat + 1
    if digits.length ≤ whole then
      digits ++ List.replicate (whole - digits.length) '0' ++ ['.', '0']
    else
      digits.take whole ++ '.' :: digits.drop whole

/-- Digits with the first one at the power of ten `magnitude`, as one digit before
the point and an exponent. -/
def exponential (digits : List Char) (magnitude : Int) : List Char :=
  let fraction := match digits.drop 1 with
    | [] => []
    | rest => '.' :: rest
  let sign := if magnitude < 0 then '-' else '+'
  digits.take 1 ++ fraction ++ ['e', sign] ++ (toString magnitude.natAbs).toList

/-- The text of a finite float. Zero keeps its sign. -/
def floatText (value : Float) : String :=
  let signBit := Nat.pow 2 63
  let sign := if value.toBits.toNat < signBit then [] else ['-']
  let magnitudeBits := value.toBits.toNat % signBit
  if magnitudeBits = 0 then String.ofList (sign ++ ['0', '.', '0'])
  else
    let shortest := (Binary.ofFloat value).shortest
    let (digits, exponent) := trimZeros (toString shortest.digits).toList shortest.exponent
    let magnitude := exponent + digits.length - 1
    let body :=
      if -5 ≤ magnitude ∧ magnitude ≤ 15 then positional digits magnitude
      else exponential digits magnitude
    String.ofList (sign ++ body)

end TreeWatch.Decimal
