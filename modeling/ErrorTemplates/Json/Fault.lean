/-!
# Faults in JSON texts

What can be wrong with a JSON text and where. A position is a number of bytes from the
beginning, and it is told as a line and a column: the lines count from one, and the column
is the number of bytes since the last line feed.
-/

namespace ErrorTemplates
namespace Json

/-- Why a text cannot be read. -/
inductive Cause
  | endInValue
  | endInString
  | endInArray
  | endInObject
  | valueExpected
  | wordExpected
  | invalidNumber
  | numberOutOfRange
  | colonExpected
  | arrayEndExpected
  | objectEndExpected
  | trailingComma
  | keyExpected
  | trailingCharacters
  | controlCharacter
  | invalidEscape
  | unfinishedPair
  | loneSurrogate
  /-- A member stands twice in an object that may have it once. -/
  | duplicate (name : String)
  /-- A value of one kind stands where another one is expected. -/
  | wrongKind (found expected : String)
  deriving DecidableEq

/-- The cause in words. -/
def Cause.message : Cause -> String
  | .endInValue => "EOF while parsing a value"
  | .endInString => "EOF while parsing a string"
  | .endInArray => "EOF while parsing a list"
  | .endInObject => "EOF while parsing an object"
  | .valueExpected => "expected value"
  | .wordExpected => "expected ident"
  | .invalidNumber => "invalid number"
  | .numberOutOfRange => "number out of range"
  | .colonExpected => "expected `:`"
  | .arrayEndExpected => "expected `,` or `]`"
  | .objectEndExpected => "expected `,` or `\x7d`"
  | .trailingComma => "trailing comma"
  | .keyExpected => "key must be a string"
  | .trailingCharacters => "trailing characters"
  | .controlCharacter => "control character (\\u0000-\\u001F) found while parsing a string"
  | .invalidEscape => "invalid escape"
  | .unfinishedPair => "unexpected end of hex escape"
  | .loneSurrogate => "lone leading surrogate in hex escape"
  | .duplicate name => "duplicate field `" ++ name ++ "`"
  | .wrongKind found expected => "invalid type: " ++ found ++ ", expected " ++ expected

/-- A cause and the number of bytes that were read. -/
structure Fault where
  /-- The cause. -/
  cause : Cause
  /-- The bytes read, up to and including the faulty one. -/
  position : Nat
  deriving DecidableEq

/-- The line and the column after a number of bytes. -/
def lineAndColumn : (line column bytes : Nat) -> List Char -> Nat × Nat
  | line, column, _, [] => (line, column)
  | line, column, 0, _ :: _ => (line, column)
  | line, column, bytes + 1, character :: rest =>
      if bytes + 1 < character.utf8Size then (line, column + (bytes + 1))
      else if character = '\n' then
        lineAndColumn (line + 1) 0 (bytes + 1 - character.utf8Size) rest
      else
        lineAndColumn line (column + character.utf8Size)
          (bytes + 1 - character.utf8Size) rest

/-- The fault in words, with its line and its column in a text. -/
def Fault.describe (fault : Fault) (text : String) : String :=
  let (line, column) := lineAndColumn 1 0 fault.position text.toList
  fault.cause.message ++ " at line " ++ toString line ++ " column " ++ toString column

end Json
end ErrorTemplates
