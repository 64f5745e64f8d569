/-
This file words the problems a JSON text can have. A message names the problem and
then the place where it was met.
-/

import TreeWatch.Json.Fault
import TreeWatch.Decimal.Notation
import TreeWatch.Text.Quoted

namespace TreeWatch.Json

/-- The wording of what was found. -/
def Found.text : Found → String
  | .null => "null"
  | .bool true => "boolean `true`"
  | .bool false => "boolean `false`"
  | .integer value => "integer `" ++ toString value ++ "`"
  | .float value => "floating point `" ++ Decimal.floatText value ++ "`"
  | .string value => "string " ++ Text.quoted value
  | .list => "sequence"
  | .object => "map"

/-- Names in back quotes, separated by commas. -/
def listNames (names : List String) : String :=
  ", ".intercalate (names.map fun name => "`" ++ name ++ "`")

/-- The wording of a problem, without its place. -/
def Cause.message : Cause → String
  | .endInValue => "EOF while parsing a value"
  | .endInList => "EOF while parsing a list"
  | .endInObject => "EOF while parsing an object"
  | .endInString => "EOF while parsing a string"
  | .expectedValue => "expected value"
  | .expectedWord => "expected ident"
  | .expectedColon => "expected `:`"
  | .expectedListCommaOrEnd => "expected `,` or `]`"
  | .expectedObjectCommaOrEnd => "expected `,` or `\x7d`"
  | .trailingComma => "trailing comma"
  | .keyNotString => "key must be a string"
  | .trailingCharacters => "trailing characters"
  | .invalidNumber => "invalid number"
  | .numberOutOfRange => "number out of range"
  | .invalidEscape => "invalid escape"
  | .controlCharacter =>
    "control character (\\u0000-\\u001F) found while parsing a string"
  | .loneSurrogate => "lone leading surrogate in hex escape"
  | .missingSurrogate => "unexpected end of hex escape"
  | .invalidUtf8 => "invalid unicode code point"
  | .tooDeep => "recursion limit exceeded"
  | .missingField name => "missing field `" ++ name ++ "`"
  | .duplicateField name => "duplicate field `" ++ name ++ "`"
  | .wrongKind found wanted => "invalid type: " ++ found.text ++ ", expected " ++ wanted
  | .outOfRange value wanted =>
    "invalid value: integer `" ++ toString value ++ "`, expected " ++ wanted
  | .unknownVariant name known =>
    "unknown variant `" ++ name ++ "`, expected one of " ++ listNames known
  | .tooShort length wanted =>
    "invalid length " ++ toString length ++ ", expected " ++ wanted

def Position.text (position : Position) : String :=
  "line " ++ toString position.line ++ " column " ++ toString position.column

/-- The wording of a problem together with its place. -/
def Cause.messageAt (cause : Cause) (position : Position) : String :=
  cause.message ++ " at " ++ position.text

/-- The wording of a fault in a text. -/
def Fault.message (fault : Fault) (text : Bytes) : String :=
  fault.cause.messageAt (fault.position text)

end TreeWatch.Json
