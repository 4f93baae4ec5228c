/-!
# Faults in JSON texts

What can be wrong with a JSON text, and where. A fault remembers how many bytes are left unread at
the offending byte, which the reader knows without counting; the line and the column follow from
the whole text.

* `Cause.message` puts a cause into words.
* `Fault.place` is the line and the column: the number of bytes of the line up to and including
  the offending one. A line feed begins a new line at column 0.
-/

namespace CredentialCheck.Json

/-- What is wrong with a text. -/
inductive Cause
  | endInValue
  | endInObject
  | endInList
  | endInString
  | expectedValue
  /-- A word other than the known ones. -/
  | expectedWord
  | expectedColon
  | expectedCommaOrBracket
  | expectedCommaOrBrace
  | keyNotString
  | trailingComma
  | trailingCharacters
  | invalidNumber
  /-- An integer part with too many digits. -/
  | numberOutOfRange
  | tooDeep
  | invalidEscape
  | unexpectedEndOfEscape
  /-- Half of a surrogate pair. -/
  | loneSurrogate
  /-- Bytes in a string that are not UTF-8. -/
  | invalidCodePoint
  | controlCharacter
  deriving DecidableEq, Repr

/-- A cause in words. -/
def Cause.message : Cause → String
  | .endInValue => "EOF while parsing a value"
  | .endInObject => "EOF while parsing an object"
  | .endInList => "EOF while parsing a list"
  | .endInString => "EOF while parsing a string"
  | .expectedValue => "expected value"
  | .expectedWord => "expected ident"
  | .expectedColon => "expected `:`"
  | .expectedCommaOrBracket => "expected `,` or `]`"
  | .expectedCommaOrBrace => "expected `,` or `\x7d`"
  | .keyNotString => "key must be a string"
  | .trailingComma => "trailing comma"
  | .trailingCharacters => "trailing characters"
  | .invalidNumber => "invalid number"
  | .numberOutOfRange => "number out of range"
  | .tooDeep => "recursion limit exceeded"
  | .invalidEscape => "invalid escape"
  | .unexpectedEndOfEscape => "unexpected end of hex escape"
  | .loneSurrogate => "lone leading surrogate in hex escape"
  | .invalidCodePoint => "invalid unicode code point"
  | .controlCharacter => "control character (\\u0000-\\u001F) found while parsing a string"

/-- A cause and the number of bytes from the offending one to the end. -/
structure Fault where
  cause : Cause
  left : Nat
  deriving DecidableEq, Repr

/-- The line and the column of the offending byte of a text. -/
def Fault.place (text : List UInt8) (f : Fault) : Nat × Nat :=
  let seen := text.take (text.length - f.left + 1)
  (seen.count 0x0A + 1, (seen.reverse.takeWhile (· != 0x0A)).length)

/-- The fault in words, with its place in the text. -/
def Fault.message (text : List UInt8) (f : Fault) : String :=
  let (line, column) := f.place text
  f.cause.message ++ " at line " ++ toString line ++ " column " ++ toString column

end CredentialCheck.Json
