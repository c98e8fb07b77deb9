import ErrorTemplates.Program.Comments
import ErrorTemplates.Program.Token

/-!
# Gaps between tokens

Blanks, line breaks and comments may stand between two tokens. A comment belongs to the
token before it when it stands on the same line and that token keeps comments, and to
the token after it otherwise.
-/

namespace ErrorTemplates
namespace Program

/-- A character that ends a line. -/
def isLineBreak (character : Char) : Bool :=
  character == '\n' || character == '\r' ||
    character == '\u2028' || character == '\u2029'

/-- A character that separates tokens and does not end a line. -/
def isBlank (character : Char) : Bool :=
  character == ' ' || character == '\t' || character == '\x0b' || character == '\x0c' ||
    character == '\xa0' || character == '\ufeff' || character == '\u1680' ||
    ('\u2000' ≤ character && character ≤ '\u200a') ||
    character == '\u202f' || character == '\u205f' || character == '\u3000'

/-- The bytes that characters take. -/
def bytes : List Char -> Nat
  | [] => 0
  | character :: rest => character.utf8Size + bytes rest

@[simp] theorem bytes_nil : bytes [] = 0 := rfl

@[simp] theorem bytes_cons (character : Char) (rest : List Char) :
    bytes (character :: rest) = character.utf8Size + bytes rest := rfl

/-- What has been found between two tokens. -/
structure Gap where
  /-- The text after the gap. -/
  rest : List Char
  /-- The position of that text. -/
  position : Nat
  /-- The gap holds a line break, or nothing stands before it. -/
  lineBreak : Bool
  /-- The comments that belong to the token before the gap. -/
  behind : List Comment
  /-- The comments that belong to the token after the gap. -/
  ahead : List Comment

namespace Gap

/-- Where in a gap the reader is. -/
inductive Place
  | outside
  /-- In a line comment with the given text so far, last character first. -/
  | line (text : List Char)
  /-- In a block comment that began with or without a line break before it. -/
  | block (text : List Char) (lineBreak : Bool)

/-- Assign a comment to one of the two tokens. -/
def store (gap : Gap) (comment : Comment) (belongsAhead : Bool) : Gap :=
  if belongsAhead then { gap with ahead := gap.ahead ++ [comment] }
  else { gap with behind := gap.behind ++ [comment] }

/-- A semicolon comes next. -/
def semicolonFollows (text : List Char) : Bool :=
  (text.dropWhile fun c => isBlank c || isLineBreak c).head? == some ';'

/-- The end of a line comment. -/
def closeLine (gap : Gap) (previous : Option Token) (text : List Char) : Gap :=
  let kept := previous.all Token.keepsLineComment
  gap.store { isLine := true, text := String.ofList text.reverse }
    (gap.lineBreak || !kept)

/-- The end of a block comment. -/
def closeBlock
    (gap : Gap)
    (previous : Option Token)
    (text : List Char)
    (lineBreak : Bool)
    (following : List Char) : Gap :=
  let kept := previous.any Token.keepsBlockComment || semicolonFollows following
  gap.store { isLine := false, text := String.ofList text.reverse } (lineBreak || !kept)

/-- Move over characters of the gap. -/
def moveBy (gap : Gap) (count : Nat) : Gap :=
  { gap with position := gap.position + count }

/-- Read a gap to its end. -/
def read (previous : Option Token) : Place -> Gap -> List Char -> Gap
  | .outside, gap, [] => { gap with rest := [] }
  | .outside, gap, '/' :: '/' :: rest => read previous (.line []) (gap.moveBy 2) rest
  | .outside, gap, '/' :: '*' :: rest =>
      read previous (.block [] gap.lineBreak) (gap.moveBy 2) rest
  | .outside, gap, '<' :: '!' :: '-' :: '-' :: rest =>
      read previous (.line []) (gap.moveBy 4) rest
  | .outside, gap, '-' :: '-' :: '>' :: rest =>
      if gap.lineBreak then read previous (.line []) (gap.moveBy 3) rest
      else { gap with rest := '-' :: '-' :: '>' :: rest }
  | .outside, gap, character :: rest =>
      if isLineBreak character then
        read previous .outside
          { gap.moveBy character.utf8Size with lineBreak := true } rest
      else if isBlank character then
        read previous .outside (gap.moveBy character.utf8Size) rest
      else { gap with rest := character :: rest }
  | .line text, gap, [] => { gap.closeLine previous text with rest := [] }
  | .line text, gap, character :: rest =>
      if isLineBreak character then
        read previous .outside
          { (gap.closeLine previous text).moveBy character.utf8Size with
            lineBreak := true }
          rest
      else read previous (.line (character :: text)) (gap.moveBy character.utf8Size) rest
  | .block _ _, gap, [] => { gap with rest := [] }
  | .block text lineBreak, gap, '*' :: '/' :: rest =>
      read previous .outside ((gap.closeBlock previous text lineBreak rest).moveBy 2) rest
  | .block text lineBreak, gap, character :: rest =>
      let gap := gap.moveBy character.utf8Size
      read previous (.block (character :: text) lineBreak)
        { gap with lineBreak := gap.lineBreak || isLineBreak character } rest

end Gap

end Program
end ErrorTemplates
