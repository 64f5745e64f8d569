/-
This file writes and reads JSON strings. A text is written between quotes with the
two quoting characters and the control characters escaped and everything else as it
is. It is read one octet at a time, so a string cut anywhere can be resumed with the
octets that follow; only the closing quote decides whether the octets collected are
text.
-/

import TreeWatch.Json.Fault

namespace TreeWatch.Json

/-! ### Writing -/

/-- The last two digits of an escape that gives a control character by its code. -/
def hexDigits (code : Nat) : List Char :=
  [Nat.digitChar (code / 16 % 16), Nat.digitChar (code % 16)]

/-- How one character stands inside a string. -/
def escape (char : Char) : List Char :=
  if char = '"' then ['\\', '"']
  else if char = '\\' then ['\\', '\\']
  else if char = '\x08' then ['\\', 'b']
  else if char = '\x0c' then ['\\', 'f']
  else if char = '\n' then ['\\', 'n']
  else if char = '\r' then ['\\', 'r']
  else if char = '\t' then ['\\', 't']
  else if char.toNat < 0x20 then ['\\', 'u', '0', '0'] ++ hexDigits char.toNat
  else [char]

/-- A text as a JSON string. -/
def quote (text : String) : String :=
  String.ofList ('"' :: text.toList.flatMap escape ++ ['"'])

/-! ### Reading -/

/-- Where a string stands between two of its octets. -/
inductive TextPart where
  /-- Between characters. -/
  | plain
  /-- After a backslash. -/
  | escape
  /-- Inside the four digits of a code, after the given ones, last one first; `lead`
  is the first half of a pair that this code must complete. -/
  | code (digits : Bytes) (lead : Option Nat)
  /-- After the first half of a pair, where a backslash must follow. -/
  | lead (high : Nat)
  /-- After that backslash, where a `u` must follow. -/
  | leadEscape (high : Nat)
  deriving DecidableEq, Repr

/-- A string being read: the octets it stands for so far, last one first. -/
structure TextScan where
  collected : Bytes := []
  part : TextPart := .plain
  deriving DecidableEq, Repr

/-- What one octet does to a string. -/
inductive TextStep where
  | more (scan : TextScan)
  | done (text : String)
  /-- The octet is at fault. -/
  | refuse (cause : Cause)
  /-- The octets before this one are at fault. -/
  | refuseBefore (cause : Cause)

/-- The value of a hexadecimal digit. -/
def hexValue? (byte : UInt8) : Option Nat :=
  let code := byte.toNat
  if 0x30 ≤ code ∧ code ≤ 0x39 then some (code - 0x30)
  else if 0x61 ≤ code ∧ code ≤ 0x66 then some (code - 0x61 + 10)
  else if 0x41 ≤ code ∧ code ≤ 0x46 then some (code - 0x41 + 10)
  else none

/-- The number written by hexadecimal digits, last one first. -/
def hexNumber? : Bytes → Option Nat
  | [] => some 0
  | last :: before => do
    let digit ← hexValue? last
    let rest ← hexNumber? before
    pure (rest * 16 + digit)

def isHighSurrogate (code : Nat) : Bool := 0xD800 ≤ code && code ≤ 0xDBFF

def isLowSurrogate (code : Nat) : Bool := 0xDC00 ≤ code && code ≤ 0xDFFF

/-- The octet that a one-letter escape stands for. -/
def escapedByte? (letter : UInt8) : Option UInt8 :=
  if letter == 0x22 then some 0x22
  else if letter == 0x5c then some 0x5c
  else if letter == 0x2f then some 0x2f
  else if letter == 0x62 then some 0x08
  else if letter == 0x66 then some 0x0c
  else if letter == 0x6e then some 0x0a
  else if letter == 0x72 then some 0x0d
  else if letter == 0x74 then some 0x09
  else none

namespace TextScan

/-- The scan goes on between characters after one more character. -/
def push (scan : TextScan) (code : Nat) : TextScan :=
  { collected := (String.utf8EncodeChar (Char.ofNat code)).reverse ++ scan.collected
    part := .plain }

/-- Takes a complete code: a character, the first half of a pair, or its second half. -/
def takeCode (scan : TextScan) (code : Nat) : Option Nat → TextStep
  | none =>
    if isLowSurrogate code then .refuse .loneSurrogate
    else if isHighSurrogate code then .more { scan with part := .lead code }
    else .more (scan.push code)
  | some high =>
    if isLowSurrogate code then
      .more (scan.push (0x10000 + (high - 0xD800) * 0x400 + (code - 0xDC00)))
    else .refuse .loneSurrogate

/-- Reads one octet. -/
def step (scan : TextScan) (byte : UInt8) : TextStep :=
  match scan.part with
  | .plain =>
    if byte == 0x22 then
      match Utf8.decode? scan.collected.reverse with
      | some text => .done text
      | none => .refuseBefore .invalidUtf8
    else if byte == 0x5c then .more { scan with part := .escape }
    else if byte < 0x20 then .refuse .controlCharacter
    else .more { scan with collected := byte :: scan.collected }
  | .escape =>
    if byte == 0x75 then .more { scan with part := .code [] none }
    else match escapedByte? byte with
      | some meant => .more { collected := meant :: scan.collected, part := .plain }
      | none => .refuse .invalidEscape
  | .code digits lead =>
    if digits.length < 3 then .more { scan with part := .code (byte :: digits) lead }
    else match hexNumber? (byte :: digits) with
      | some code => scan.takeCode code lead
      | none => .refuse .invalidEscape
  | .lead high =>
    if byte == 0x5c then .more { scan with part := .leadEscape high }
    else .refuse .missingSurrogate
  | .leadEscape high =>
    if byte == 0x75 then .more { scan with part := .code [] (some high) }
    else .refuse .missingSurrogate

/-- Reads a string after its opening quote up to and including the closing one. -/
def run : TextScan → Bytes → Except Fault (String × Bytes)
  | _, [] => .error ⟨.endInString, 0⟩
  | scan, byte :: rest =>
    match scan.step byte with
    | .more scan => run scan rest
    | .done text => .ok (text, rest)
    | .refuse cause => .error ⟨cause, rest.length⟩
    | .refuseBefore cause => .error ⟨cause, rest.length + 1⟩

end TextScan

end TreeWatch.Json
