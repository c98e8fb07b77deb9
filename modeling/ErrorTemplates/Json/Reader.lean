import ErrorTemplates.Json.Fault
import ErrorTemplates.Decimal.Shortest
import ErrorTemplates.Text.Quoted

/-!
# Reading JSON texts

A text is read from left to right and never twice, so the first fault is the one that is
reported. Values are read into what is asked for; a value that nobody asked for is passed
over, and only its form is checked.
-/

namespace ErrorTemplates
namespace Json

/-- How far a text has been read. -/
structure Cursor where
  /-- The text that is left. -/
  rest : List Char
  /-- The bytes that have been read. -/
  position : Nat

/-- A reader moves the cursor and may find a fault. -/
abbrev Reader := EStateM Fault Cursor

/-- The next character. -/
def peek? : Reader (Option Char) := do
  return (← get).rest.head?

/-- Read a character. -/
def next? : Reader (Option Char) := do
  let cursor ← get
  match cursor.rest with
  | [] => return none
  | character :: rest =>
      set { rest, position := cursor.position + character.utf8Size : Cursor }
      return some character

/-- Pass a character. -/
def skip : Reader Unit := do
  let _ ← next?

/-- Fail after the bytes that have been read. -/
def failHere {α : Type} (cause : Cause) : Reader α := do
  throw { cause, position := (← get).position }

/-- Fail at the next byte, or at the end. -/
def failNext {α : Type} (cause : Cause) : Reader α := do
  let cursor ← get
  let size := if cursor.rest.isEmpty then 0 else 1
  throw { cause, position := cursor.position + size }

/-- Fail after a character that has been read, of which only the first byte counts. -/
def failAfter {α : Type} (character : Char) (cause : Cause) : Reader α := do
  throw { cause, position := (← get).position + 1 - character.utf8Size }

/-- A character that separates tokens. -/
def isBlank (character : Char) : Bool :=
  character == ' ' || character == '\n' || character == '\t' || character == '\r'

/-- Pass blanks and look at the next character. -/
def afterBlanks : Reader (Option Char) := do
  let cursor ← get
  let blanks := cursor.rest.takeWhile isBlank
  set
    { rest := cursor.rest.drop blanks.length
      position := cursor.position + blanks.length : Cursor }
  peek?

/-- Read the given characters of a word. -/
def word : List Char -> Reader Unit
  | [] => return ()
  | expected :: rest => do
      match ← next? with
      | none => failHere .endInValue
      | some found =>
          if found = expected then word rest else failAfter found .wordExpected

/-! ## Strings -/

/-- The value of a hexadecimal digit. -/
def hexValue? (character : Char) : Option Nat :=
  if '0' ≤ character && character ≤ '9' then some (character.toNat - '0'.toNat)
  else if 'a' ≤ character && character ≤ 'f' then some (character.toNat - 'a'.toNat + 10)
  else if 'A' ≤ character && character ≤ 'F' then some (character.toNat - 'A'.toNat + 10)
  else none

/-- The bytes that characters take. -/
def size (text : List Char) : Nat := text.foldl (fun total next => total + next.utf8Size) 0

/-- Read the four digits of an escape sequence. -/
def fourDigits : Reader Nat := do
  let cursor ← get
  let digits := cursor.rest.take 4
  match digits.mapM hexValue? with
  | some [one, two, three, four] =>
      set { rest := cursor.rest.drop 4, position := cursor.position + 4 : Cursor }
      return ((one * 16 + two) * 16 + three) * 16 + four
  | _ =>
      if size digits < 4 then
        throw { cause := .endInString, position := cursor.position + size digits }
      else throw { cause := .invalidEscape, position := cursor.position + 4 }

/-- Read a character of a string that has to be there. -/
def needCharacter : Reader Char := do
  match ← next? with
  | none => failHere .endInString
  | some character => return character

/-- Read a character that the second half of a surrogate pair has to begin with. -/
def needPairCharacter (expected : Char) : Reader Unit := do
  let found ← needCharacter
  if found != expected then failAfter found .unfinishedPair

/-- Read an escape sequence of four digits, or of two times four for a pair. -/
def unicodeEscape : Reader Char := do
  let unit ← fourDigits
  if 0xdc00 ≤ unit && unit ≤ 0xdfff then failHere .loneSurrogate
  else if 0xd800 ≤ unit && unit ≤ 0xdbff then
    needPairCharacter '\\'
    needPairCharacter 'u'
    let low ← fourDigits
    if low < 0xdc00 || 0xdfff < low then failHere .loneSurrogate
    return Char.ofNat ((unit - 0xd800) * 0x400 + (low - 0xdc00) + 0x10000)
  else return Char.ofNat unit

/-- The character that a letter after a backslash stands for. -/
def escaped? : Char -> Option Char
  | '"' => some '"'
  | '\\' => some '\\'
  | '/' => some '/'
  | 'b' => some '\x08'
  | 'f' => some '\x0c'
  | 'n' => some '\n'
  | 'r' => some '\r'
  | 't' => some '\t'
  | _ => none

/-- Read the rest of a string, after its opening quote. -/
def stringRest : (limit : Nat) -> Reader (List Char)
  | 0 => failHere .endInString
  | limit + 1 => do
      match ← next? with
      | none => failHere .endInString
      | some '"' => return []
      | some '\\' =>
          let letter ← needCharacter
          let character ←
            if letter = 'u' then unicodeEscape
            else
              match escaped? letter with
              | some character => pure character
              | none => failAfter letter .invalidEscape
          return character :: (← stringRest limit)
      | some character =>
          if character.toNat < 0x20 then failHere .controlCharacter
          return character :: (← stringRest limit)

/-- Read a string, from its opening quote on. -/
def string : Reader String := do
  skip
  String.ofList <$> stringRest ((← get).rest.length + 1)

/-- Pass the rest of a string whose value nobody asked for. -/
def passStringRest : (limit : Nat) -> Reader Unit
  | 0 => failHere .endInString
  | limit + 1 => do
      match ← peek? with
      | none => failHere .endInString
      | some '"' => skip
      | some '\\' =>
          skip
          let letter ← needCharacter
          if letter = 'u' then
            let _ ← fourDigits
          else if (escaped? letter).isNone then failAfter letter .invalidEscape
          passStringRest limit
      | some character =>
          if character.toNat < 0x20 then failHere .controlCharacter
          skip
          passStringRest limit

/-- Pass a string, from its opening quote on. -/
def passString (limit : Nat) : Reader Unit := do
  skip
  passStringRest limit

/-! ## Numbers -/

/-- Read digits. -/
def digits : Reader (List Char) := do
  let cursor ← get
  let found := cursor.rest.takeWhile Char.isDigit
  set
    { rest := cursor.rest.drop found.length
      position := cursor.position + found.length : Cursor }
  return found

/-- Read the whole part of a number, which has no zero before other digits. The cause is
that of a text that ends here. -/
def wholePart (atEnd : Cause) : Reader (List Char) := do
  match ← next? with
  | none => failHere atEnd
  | some first =>
      if !first.isDigit then failAfter first .invalidNumber
      let rest ← if first = '0' then pure [] else digits
      if first = '0' && (← peek?).any Char.isDigit then failNext .invalidNumber
      return first :: rest

/-- Read the digits after a point, if there is one. -/
def fractionPart (atEnd : Cause) : Reader (List Char) := do
  if (← peek?) != some '.' then return []
  skip
  let found ← digits
  if found.isEmpty then
    if (← peek?).isNone then failHere atEnd else failNext .invalidNumber
  return found

/-- Read an exponent, if there is one. -/
def exponentPart (atEnd : Cause) : Reader (Option Int) := do
  if !(← peek?).any (fun c => c == 'e' || c == 'E') then return none
  skip
  let isNegative := (← peek?) == some '-'
  if isNegative || (← peek?) == some '+' then skip
  match ← next? with
  | none => failHere atEnd
  | some first =>
      if !first.isDigit then failAfter first .invalidNumber
      let found := first :: (← digits)
      let value := found.foldl (fun value digit => 10 * value + (digit.toNat - 48)) 0
      return some (if isNegative then -Int.ofNat value else Int.ofNat value)

/-- A number as it is written. -/
structure Number where
  /-- The number has a minus sign. -/
  isNegative : Bool
  /-- The digits before the point. -/
  whole : List Char
  /-- The digits after the point. -/
  fraction : List Char
  /-- The exponent of ten. -/
  exponent : Option Int

/-- Read a number after its sign. -/
def number (atEnd : Cause) (isNegative : Bool) : Reader Number := do
  let whole ← wholePart atEnd
  let fraction ← fractionPart atEnd
  let exponent ← exponentPart atEnd
  return { isNegative, whole, fraction, exponent }

/-- The digits that fit into a word of 64 bits, and how many do not. -/
def leadingDigits : (value : Nat) -> List Char -> Nat × Nat
  | value, [] => (value, 0)
  | value, digit :: rest =>
      let longer := 10 * value + (digit.toNat - 48)
      if longer < Decimal.powerOfTwo 64 then leadingDigits longer rest else (value, rest.length + 1)

/-- A power of ten as a floating point number. -/
def powerOfTen (exponent : Nat) : Float := Float.ofScientific 1 false exponent

/-- A number with a decimal exponent, by division where the exponent is negative. -/
def scaled : (limit : Nat) -> Float -> Int -> Float
  | 0, value, _ => value
  | limit + 1, value, exponent =>
      if 0 ≤ exponent then value * powerOfTen exponent.toNat
      else if -308 ≤ exponent then value / powerOfTen (-exponent).toNat
      else scaled limit (value / powerOfTen 308) (exponent + 308)

namespace Number

/-- The leading digits and the exponent of ten that belongs to them. -/
def parts (number : Number) : Nat × Int :=
  let (whole, dropped) := leadingDigits 0 number.whole
  let (significand, ignored) :=
    if dropped = 0 then leadingDigits whole number.fraction
    else (whole, number.fraction.length)
  let exponent := number.exponent.getD 0
  (significand, exponent + dropped - (number.fraction.length - ignored : Nat))

/-- The number has neither a point nor an exponent and fits into a word of 64 bits. -/
def isInteger (number : Number) : Bool :=
  let magnitude := (leadingDigits 0 number.whole).1
  number.fraction.isEmpty && number.exponent.isNone &&
    (leadingDigits 0 number.whole).2 == 0 &&
    (!number.isNegative || (magnitude != 0 && magnitude ≤ Decimal.powerOfTwo 63))

/-- The floating point value of the number without its sign. -/
def magnitude (number : Number) : Float :=
  let (significand, exponent) := number.parts
  if significand = 0 then 0.0 else scaled 3 (Float.ofNat significand) exponent

/-- The number in words. -/
def describe (number : Number) : String :=
  let sign := if number.isNegative then "-" else ""
  if number.isInteger then
    "integer `" ++ sign ++ toString (leadingDigits 0 number.whole).1 ++ "`"
  else
    "floating point `" ++ sign ++ Decimal.floatText number.magnitude.toBits.toNat ++ "`"

/-- The number is too large for a floating point number. -/
def isOutOfRange (number : Number) : Bool := !number.isInteger && number.magnitude.isInf

end Number

/-! ## Values of the wrong kind -/

/-- Read a number that is not asked for, and describe it. -/
def describedNumber (isNegative : Bool) : Reader String := do
  let found ← number .endInValue isNegative
  if found.isOutOfRange then failHere .numberOutOfRange
  return found.describe

/-- Read the beginning of a value that is not asked for, and say what it is. -/
def foundKind : Reader String := do
  match ← peek? with
  | some 'n' => skip; word "ull".toList; return "null"
  | some 't' => skip; word "rue".toList; return "boolean `true`"
  | some 'f' => skip; word "alse".toList; return "boolean `false`"
  | some '"' => return "string " ++ Text.quoted (← string).toList
  | some '[' => return "sequence"
  | some '\x7b' => return "map"
  | some '-' => skip; describedNumber true
  | some other => if other.isDigit then describedNumber false else failNext .valueExpected
  | none => failNext .endInValue

/-- Fail because the value that begins here is not of the expected kind. -/
def wrongKind {α : Type} (expected : String) : Reader α := do
  let found ← foundKind
  failHere (.wrongKind found expected)

/-- Read a value that has to be a string. -/
def stringValue : Reader String := do
  match ← afterBlanks with
  | none => failNext .endInValue
  | some '"' => string
  | some _ => wrongKind "a string"

/-- Read a value that has to be a string or null. -/
def optionalStringValue : Reader (Option String) := do
  match ← afterBlanks with
  | some 'n' => skip; word "ull".toList; return none
  | _ => some <$> stringValue

/-! ## Passing over values -/

/-- The brackets that are open around a position, the innermost first. -/
abbrev Nesting := List Char

/-- Pass a value that has no parts, or open one that has. The result is the bracket. -/
def passSimple (limit : Nat) : Reader (Option Char) := do
  match ← afterBlanks with
  | none => failNext .endInValue
  | some 'n' => skip; word "ull".toList; return none
  | some 't' => skip; word "rue".toList; return none
  | some 'f' => skip; word "alse".toList; return none
  | some '"' => passString limit; return none
  | some '[' => skip; return some '['
  | some '\x7b' => skip; return some '\x7b'
  | some '-' =>
      skip
      let _ ← number .invalidNumber true
      return none
  | some other =>
      if other.isDigit then
        let _ ← number .invalidNumber false
        return none
      else failNext .valueExpected

/-- Pass the key of a member and the colon after it. -/
def passKey (limit : Nat) : Reader Unit := do
  match ← afterBlanks with
  | some '"' => passString limit
  | some _ => failNext .keyExpected
  | none => failNext .endInObject
  match ← afterBlanks with
  | some ':' => skip
  | some _ => failNext .colonExpected
  | none => failNext .endInObject

/-- Close brackets and pass a comma. The result has the brackets that are still open when
another value has to follow, and none when the outermost is closed. A comma may follow
only after a value. -/
def closeBrackets : (afterValue : Bool) -> Nesting -> Reader (Option Nesting)
  | _, [] => return none
  | afterValue, bracket :: outer => do
      let close := if bracket = '[' then ']' else '\x7d'
      match ← afterBlanks with
      | none => failNext (if bracket = '[' then .endInArray else .endInObject)
      | some found =>
          if found = close then
            skip
            closeBrackets true outer
          else if !afterValue then return some (bracket :: outer)
          else if found = ',' then
            skip
            return some (bracket :: outer)
          else failNext (if bracket = '[' then .arrayEndExpected else .objectEndExpected)

/-- Pass a value inside of the given brackets, and all that follows up to the end of the
outermost one. The limit exceeds the length of the text that is left, since every value
has a character. -/
def passNested : (limit : Nat) -> Nesting -> Reader Unit
  | 0, _ => failNext .endInValue
  | limit + 1, nesting => do
      let left ←
        match ← passSimple (limit + 1) with
        | some bracket => closeBrackets false (bracket :: nesting)
        | none => closeBrackets true nesting
      match left with
      | none => return ()
      | some [] => return ()
      | some (bracket :: outer) =>
          if bracket = '\x7b' then passKey (limit + 1)
          passNested limit (bracket :: outer)

/-- Pass a value. -/
def passValue : Reader Unit := do
  passNested ((← get).rest.length + 1) []

/-! ## Whole texts -/

/-- Read a whole text. Only blanks may follow the value. -/
def whole {α : Type} (reader : Reader α) : Reader α := do
  let result ← reader
  match ← afterBlanks with
  | none => return result
  | some _ => failNext .trailingCharacters

/-- Read a text, or tell its first fault. -/
def read {α : Type} (reader : Reader α) (text : String) : Except Fault α :=
  match (whole reader) { rest := text.toList, position := 0 } with
  | .ok result _ => .ok result
  | .error fault _ => .error fault

end Json
end ErrorTemplates
