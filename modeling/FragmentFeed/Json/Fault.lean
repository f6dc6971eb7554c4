import FragmentFeed.Text.Utf8

/-!
# Faults in a JSON text

A reader takes its part off the front of a text and gives back the rest, or tells what is wrong and
how much of the text lies behind the place it means. A place is counted in bytes, and either stands
before what is left or on its first byte, never beyond the end.
-/

namespace FragmentFeed.Json

open Text

/-- What a value turned out to be where another kind was asked for. -/
inductive Found where
  | null
  | boolean (value : Bool)
  /-- A whole number, as it is written. -/
  | integer (text : List Char)
  /-- Any other number, as it is written. -/
  | floating (text : List Char)
  /-- A string, in quotes. -/
  | string (quoted : List Char)
  | sequence
  | map
  deriving DecidableEq, Repr

/-- How a message names what was found. -/
def Found.message : Found → String
  | .null => "null"
  | .boolean true => "boolean `true`"
  | .boolean false => "boolean `false`"
  | .integer t => "integer `" ++ String.ofList t ++ "`"
  | .floating t => "floating point `" ++ String.ofList t ++ "`"
  | .string t => "string " ++ String.ofList t
  | .sequence => "sequence"
  | .map => "map"

/-- What is wrong with a text. -/
inductive Cause where
  | endInList
  | endInObject
  | endInString
  | endInValue
  | expectedColon
  | expectedListEnd
  | expectedObjectEnd
  | expectedWord
  | expectedValue
  | invalidEscape
  | invalidNumber
  | numberOutOfRange
  | loneSurrogate
  | brokenSurrogatePair
  | controlCharacter
  | keyNotString
  | trailingComma
  | trailingCharacters
  | wrongType (found : Found) (expected : String)
  | duplicateField (name : String)
  deriving DecidableEq, Repr

/-- The wording of a cause. -/
def Cause.message : Cause → String
  | .endInList => "EOF while parsing a list"
  | .endInObject => "EOF while parsing an object"
  | .endInString => "EOF while parsing a string"
  | .endInValue => "EOF while parsing a value"
  | .expectedColon => "expected `:`"
  | .expectedListEnd => "expected `,` or `]`"
  | .expectedObjectEnd => "expected `,` or `\x7d`"
  | .expectedWord => "expected ident"
  | .expectedValue => "expected value"
  | .invalidEscape => "invalid escape"
  | .invalidNumber => "invalid number"
  | .numberOutOfRange => "number out of range"
  | .loneSurrogate => "lone leading surrogate in hex escape"
  | .brokenSurrogatePair => "unexpected end of hex escape"
  | .controlCharacter => "control character (\\u0000-\\u001F) found while parsing a string"
  | .keyNotString => "key must be a string"
  | .trailingComma => "trailing comma"
  | .trailingCharacters => "trailing characters"
  | .wrongType found expected => "invalid type: " ++ found.message ++ ", expected " ++ expected
  | .duplicateField name => "duplicate field `" ++ name ++ "`"

/-- A cause and the number of bytes behind the place it is reported at. -/
structure Fault where
  cause : Cause
  behind : Nat
  deriving DecidableEq, Repr

/-- What a reader makes of a text: what it read and the rest, or a fault. -/
abbrev Result (α : Type) := Except Fault (α × List Char)

/-- A fault right before `rest`. -/
def Fault.before (cause : Cause) (rest : List Char) : Fault := ⟨cause, Utf8.byteLength rest⟩

/-- A fault on the first byte of `rest`, or at the end where nothing is left. -/
def Fault.on (cause : Cause) (rest : List Char) : Fault := ⟨cause, Utf8.byteLength rest - 1⟩

/-- A place in a text. Lines count from one; a column is the number of bytes of its line up to and
with the place. -/
structure Place where
  line : Nat
  column : Nat
  deriving DecidableEq, Repr

/-- The place that has `behind` bytes of a text behind it. -/
def Place.find (text : List Char) (behind : Nat) : Place :=
  let bytes := Utf8.encode text
  let read := bytes.take (bytes.length - behind)
  ⟨read.count 0x0A + 1, (read.reverse.takeWhile (· != 0x0A)).length⟩

/-- The wording of a place, which follows that of a cause. -/
def Place.message (p : Place) : String :=
  " at line " ++ toString p.line ++ " column " ++ toString p.column

end FragmentFeed.Json
