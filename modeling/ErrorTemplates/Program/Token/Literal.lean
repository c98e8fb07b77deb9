import ErrorTemplates.Text.WordPart
import ErrorTemplates.Text.WordStart
import ErrorTemplates.Program.Token.Escape

/-!
# The extent of words and literals

How far a word, a number, a string, a regular expression or a part of a template reaches.
-/

namespace ErrorTemplates
namespace Program

/-- A character with which a word may begin. -/
def beginsWord (character : Char) : Bool :=
  character == '$' || character == '_' || Text.startsWord character

/-- A character with which a word may go on. -/
def extendsWord (character : Char) : Bool :=
  character == '$' || character == '_' || character == '\u200c' ||
    character == '\u200d' || Text.continuesWord character

namespace Literal

/-- The text of a word as it is written: name characters and escape sequences. -/
def wordText : List Char -> List Char
  | '\\' :: 'u' :: '\x7b' :: rest => '\\' :: 'u' :: '\x7b' :: bracedText rest
  | '\\' :: 'u' :: one :: two :: three :: four :: rest =>
      '\\' :: 'u' :: one :: two :: three :: four :: wordText rest
  | character :: rest =>
      if extendsWord character then character :: wordText rest else []
  | [] => []
where
  /-- The text of a word from inside the braces of an escape sequence. -/
  bracedText : List Char -> List Char
  | [] => []
  | '\x7d' :: rest => '\x7d' :: wordText rest
  | character :: rest => character :: bracedText rest

/-- The text up to the quote that ends a string or the end of its line. -/
def stringText (quote : Char) : List Char -> List Char
  | [] => []
  | '\\' :: '\r' :: '\n' :: rest => '\\' :: '\r' :: '\n' :: stringText quote rest
  | '\\' :: character :: rest => '\\' :: character :: stringText quote rest
  | character :: rest =>
      if character = quote || character = '\n' || character = '\r' then []
      else character :: stringText quote rest

/-- The text of a regular expression up to its last slash, if there is one on the line.
A slash in brackets or after a backslash does not end it. -/
def patternText (inBrackets : Bool) : List Char -> Option (List Char)
  | [] => none
  | '\\' :: character :: rest =>
      if character = '\n' || character = '\r' || character = '\u2028' ||
          character = '\u2029' then none
      else ('\\' :: character :: ·) <$> patternText inBrackets rest
  | character :: rest =>
      if character = '\n' || character = '\r' || character = '\u2028' ||
          character = '\u2029' then none
      else if character = '/' && !inBrackets then some []
      else if character = '[' then (character :: ·) <$> patternText true rest
      else if character = ']' then (character :: ·) <$> patternText false rest
      else (character :: ·) <$> patternText inBrackets rest

/-- The text of a template up to its end or its next substitution, if there is one. -/
def chunkText : List Char -> Option (List Char)
  | [] => none
  | '\\' :: character :: rest => ('\\' :: character :: ·) <$> chunkText rest
  | '\x60' :: _ => some []
  | '$' :: '\x7b' :: _ => some []
  | character :: rest => (character :: ·) <$> chunkText rest

/-- The text with every line end written as a line feed. -/
def withLineFeeds : List Char -> List Char
  | [] => []
  | '\r' :: '\n' :: rest => '\n' :: withLineFeeds rest
  | '\r' :: rest => '\n' :: withLineFeeds rest
  | character :: rest => character :: withLineFeeds rest

/-! ## Numbers -/

/-- A character is a digit of a radix. -/
def isDigit (radix : Nat) (character : Char) : Bool :=
  (Escape.hexDigit? character).any fun value => value < radix

/-- The digits, and the separators between them, at the beginning of a text. -/
def digits (radix : Nat) (text : List Char) : List Char :=
  text.takeWhile fun c => isDigit radix c || c == '_'

/-- A number at the beginning of a text. -/
structure Number where
  /-- The text of the number. -/
  text : List Char
  /-- The number is an integer of any size. -/
  isBig : Bool

/-- A number that cannot be read, and where in the text. -/
structure Fault where
  /-- The reason. -/
  cause : SyntaxCause
  /-- The number of characters before the fault. -/
  offset : Nat

/-- Digits in a radix after a sign for that radix. -/
def radixNumber (radix : Nat) (sign text : List Char) : Except Fault Number :=
  let found := digits radix text
  if found.isEmpty then
    .error { cause := .digitExpected radix, offset := sign.length }
  else if (text.drop found.length).head? == some 'n' then
    .ok { text := sign ++ found ++ ['n'], isBig := true }
  else .ok { text := sign ++ found, isBig := false }

/-- The exponent at the beginning of a text, after the given part of the number. -/
def withExponent (number text : List Char) : Except Fault Number :=
  match text with
  | mark :: rest =>
      if mark = 'e' || mark = 'E' then
        let sign := rest.takeWhile fun c => c == '+' || c == '-'
        let signed := number ++ mark :: sign.take 1
        let found := digits 10 (rest.drop (sign.take 1).length)
        if rest.isEmpty then
          .error { cause := .exponentExpected, offset := number.length + 1 }
        else if found.isEmpty then
          .error { cause := .digitExpected 10, offset := signed.length }
        else .ok { text := signed ++ found, isBig := false }
      else .ok { text := number, isBig := false }
  | [] => .ok { text := number, isBig := false }

/-- The fraction and the exponent at the beginning of a text, after the given digits. -/
def withFraction (whole text : List Char) : Except Fault Number :=
  match text with
  | '.' :: rest =>
      let found := digits 10 rest
      withExponent (whole ++ '.' :: found) (rest.drop found.length)
  | _ => withExponent whole text

/-- A number that begins with a digit or with a point before a digit. -/
def anyNumber : List Char -> Except Fault Number
  | '0' :: sign :: rest =>
      if sign = 'x' || sign = 'X' then radixNumber 16 ['0', sign] rest
      else if sign = 'o' || sign = 'O' then radixNumber 8 ['0', sign] rest
      else if sign = 'b' || sign = 'B' then radixNumber 2 ['0', sign] rest
      else
        let found := '0' :: digits 10 (sign :: rest)
        if 1 < found.length && found.all (isDigit 8) then
          .ok { text := found, isBig := false }
        else decimal found ((sign :: rest).drop (found.length - 1))
  | text =>
      let found := digits 10 text
      decimal found (text.drop found.length)
where
  /-- A decimal number whose whole part has been read. -/
  decimal (whole rest : List Char) : Except Fault Number :=
    if rest.head? == some 'n' && !whole.isEmpty then
      .ok { text := whole ++ ['n'], isBig := true }
    else withFraction whole rest

/-- A number at the beginning of a text, which no word may follow directly. -/
def number (text : List Char) : Except Fault Number :=
  match anyNumber text with
  | .error fault => .error fault
  | .ok found =>
      match text.drop found.text.length with
      | next :: _ =>
          if beginsWord next || next == '\\' then
            .error { cause := .wordAfterNumber, offset := found.text.length }
          else .ok found
      | [] => .ok found

end Literal

end Program
end ErrorTemplates
