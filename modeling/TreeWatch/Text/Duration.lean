/-
This file words spans of time given in milliseconds: milliseconds below one second,
seconds with as many decimals as needed from there on.
-/

namespace TreeWatch.Text

/-- A number below one thousand as three decimals without zeros at the end. -/
def thousandths (value : Nat) : List Char :=
  let digits := [value / 100 % 10, value / 10 % 10, value % 10].map Nat.digitChar
  (digits.reverse.dropWhile (· == '0')).reverse

/-- The wording of a span of milliseconds. -/
def duration (milliseconds : Nat) : String :=
  if milliseconds = 0 then "0ns"
  else if milliseconds < 1000 then toString milliseconds ++ "ms"
  else
    let decimals := thousandths (milliseconds % 1000)
    let point := if decimals.isEmpty then [] else ['.']
    toString (milliseconds / 1000) ++ String.ofList (point ++ decimals) ++ "s"

end TreeWatch.Text
