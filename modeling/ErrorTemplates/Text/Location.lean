import ErrorTemplates.Text.DisplayWidth

/-!
# Locations in a text

A position in a text is a number of bytes from its beginning. A location is what a
reader needs of it: the line, the display column and the text of that line. Lines and
columns count from one.

A line ends after a line feed, after a carriage return with a line feed, and after a
carriage return alone, unless nothing follows: the end of a text is on its last line.
The line that is shown runs to the next line feed. An empty text has no line at all.
-/

namespace ErrorTemplates
namespace Text

/-- A position as it is shown to a reader. -/
structure Location where
  /-- The path under which the text is known. -/
  file : String
  /-- The line, counted from one; zero in an empty text. -/
  line : Nat
  /-- The display column, counted from one. -/
  column : Nat
  /-- The text of the line. -/
  sourceLine : String
  deriving BEq, DecidableEq

/-- The byte order mark with which a text may begin and that belongs to no line. -/
def byteOrderMark : Char := '\ufeff'

/-- A text without the byte order mark before it. -/
def withoutMark : List Char -> List Char
  | [] => []
  | first :: rest => if first = byteOrderMark then rest else first :: rest

/-- The columns by which a character moves a position. A tab moves by four, line ends
by one, other control characters not at all, and a character outside the basic plane by
one more than its width. -/
def columnStep (character : Char) : Nat :=
  if character = '\t' then 4
  else if character = '\n' || character = '\r' then 1
  else if character.toNat < 0x20 then 0
  else if 0x7f ≤ character.toNat && character.toNat < 0xa0 then 0
  else if 0xffff < character.toNat then displayWidth character + 1
  else displayWidth character

/-- A line ends after this character when the given text follows it. -/
def endsLine (character : Char) (following : List Char) : Bool :=
  match following with
  | [] => false
  | next :: _ => character == '\n' || (character == '\r' && next != '\n')

/-- What is known of a position on the way to it. -/
structure Cursor where
  /-- The line that has been reached. -/
  line : Nat
  /-- The columns passed on that line. -/
  passed : Nat
  /-- The text from the beginning of that line. -/
  fromLineStart : List Char

namespace Cursor

/-- The cursor after one character. -/
def advance (cursor : Cursor) (character : Char) (following : List Char) : Cursor :=
  if endsLine character following then
    { line := cursor.line + 1, passed := 0, fromLineStart := following }
  else
    { cursor with passed := cursor.passed + columnStep character }

/-- Move over the given number of bytes, or to the end of the text. -/
def moveBy (cursor : Cursor) : (bytes : Nat) -> List Char -> Cursor
  | _, [] => cursor
  | 0, _ :: _ => cursor
  | bytes + 1, character :: following =>
      (cursor.advance character following).moveBy
        (bytes + 1 - character.utf8Size) following

/-- The cursor at the beginning of a text. -/
def start (text : List Char) : Cursor :=
  { line := if text.isEmpty then 0 else 1, passed := 0, fromLineStart := text }

end Cursor

/-- The location of a byte position in a text that has no byte order mark. -/
def locate (file : String) (text : List Char) (position : Nat) : Location :=
  let cursor := (Cursor.start text).moveBy position text
  { file
    line := cursor.line
    column := cursor.passed + 1
    sourceLine := String.ofList (cursor.fromLineStart.takeWhile fun c => c != '\n') }

end Text
end ErrorTemplates
