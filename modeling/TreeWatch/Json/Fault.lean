/-
This file lists what can be wrong with a JSON text. Reading goes from left to right
and the first problem met is the one reported, with the place where it was met.
A text that merely stops too early is told apart from one that no continuation can
repair, because a stream is read while it is still arriving.
-/

import TreeWatch.Json.Value
import TreeWatch.Text.Utf8

namespace TreeWatch.Json

/-- What stood where something else was wanted. -/
inductive Found where
  | null
  | bool (value : Bool)
  | integer (value : Int)
  | float (value : Float)
  | string (value : String)
  | list
  | object

/-- What is wrong. The first four mean that the text ended early. -/
inductive Cause where
  | endInValue
  | endInList
  | endInObject
  | endInString
  | expectedValue
  | expectedWord
  | expectedColon
  | expectedListCommaOrEnd
  | expectedObjectCommaOrEnd
  | trailingComma
  | keyNotString
  | trailingCharacters
  | invalidNumber
  | numberOutOfRange
  | invalidEscape
  | controlCharacter
  | loneSurrogate
  | missingSurrogate
  | invalidUtf8
  | tooDeep
  /-- A record lacks a field that has no default. -/
  | missingField (name : String)
  | duplicateField (name : String)
  | wrongKind (found : Found) (wanted : String)
  /-- An integer of the right kind but outside the range of the field. -/
  | outOfRange (value : Int) (wanted : String)
  | unknownVariant (name : String) (known : List String)
  /-- A record written as a list that ends before a field without default. -/
  | tooShort (length : Nat) (wanted : String)

/-- The three ways to fail. -/
inductive Category where
  /-- The text stopped before the value was complete. -/
  | unfinished
  /-- The text is not JSON. -/
  | malformed
  /-- The text is JSON of the wrong shape. -/
  | mismatch
  deriving DecidableEq

def Cause.category : Cause → Category
  | .endInValue | .endInList | .endInObject | .endInString => .unfinished
  | .missingField _ | .duplicateField _ | .wrongKind _ _ | .outOfRange _ _
  | .unknownVariant _ _ | .tooShort _ _ => .mismatch
  | _ => .malformed

/-- A problem and how many octets of the text were still unread when it was met. -/
structure Fault where
  cause : Cause
  unread : Nat

/-- A place in a text: lines count from one, columns count the octets of the line
up to and including the place. -/
structure Position where
  line : Nat
  column : Nat
  deriving DecidableEq, Repr

/-- The place after the given octets. -/
def Position.after (read : Bytes) : Position :=
  { line := 1 + read.count 0x0a
    column := (read.reverse.takeWhile (· != 0x0a)).length }

/-- Where in a text a fault lies. -/
def Fault.position (fault : Fault) (text : Bytes) : Position :=
  Position.after (text.take (text.length - fault.unread))

end TreeWatch.Json
