import ErrorTemplates.Program.Comments
import ErrorTemplates.Program.Span

/-!
# Writing lines

Text is written line by line. A line is indented when its first text is written, and
ending a line that holds nothing does nothing, so no empty line and no blank at the end of
a line comes from the layout itself.
-/

namespace ErrorTemplates
namespace Program
namespace Print

/-- What has been written, and the comments that are still to be written. -/
structure Writer where
  /-- The text so far. -/
  output : String
  /-- Nothing stands on the current line. -/
  atLineStart : Bool
  /-- The levels by which a new line is indented. -/
  level : Nat
  /-- The comments that are still to be written. -/
  comments : Comments

namespace Writer

/-- The writer that has written nothing. -/
def start (comments : Comments) : Writer :=
  { output := "", atLineStart := true, level := 0, comments }

/-- The blanks of a number of levels. -/
def indent (level : Nat) : String := String.ofList (List.replicate (4 * level) ' ')

/-- Write a text on the current line. -/
def write (writer : Writer) (text : String) : Writer :=
  if text.isEmpty then writer
  else if writer.atLineStart then
    { writer with
      output := writer.output ++ indent writer.level ++ text
      atLineStart := false }
  else { writer with output := writer.output ++ text }

/-- End the current line, unless it holds nothing. -/
def endLine (writer : Writer) : Writer :=
  if writer.atLineStart then writer
  else { writer with output := writer.output ++ "\n", atLineStart := true }

@[simp] theorem endLine_endLine (writer : Writer) :
    writer.endLine.endLine = writer.endLine := by
  unfold endLine
  split <;> simp_all

/-- Write a comment, with a blank before it if it trails something. -/
def comment (trails : Bool) (writer : Writer) (comment : Comment) : Writer :=
  let writer := if trails then writer.write " " else writer
  if comment.isLine then ((writer.write "//").write comment.text).endLine
  else (((writer.write "/*").write comment.text).write "*/").write " "

/-- Write the comments before what begins at a position. -/
def leading (writer : Writer) (position : Nat) : Writer :=
  let (found, others) := writer.comments.takeLeading position
  found.foldl (comment false) { writer with comments := others }

/-- Write the comments after what ends at a position. -/
def trailing (writer : Writer) (position : Nat) : Writer :=
  let (found, others) := writer.comments.takeTrailing position
  found.foldl (comment true) { writer with comments := others }

end Writer

/-- A part of the output. -/
abbrev Layout := StateM Writer Unit

/-- Write a text on the current line. -/
def text (written : String) : Layout := modify fun writer => writer.write written

/-- End the current line, unless it holds nothing. -/
def newLine : Layout := modify Writer.endLine

/-- Indent the lines of a part by one more level. -/
def indented (layout : Layout) : Layout := do
  modify fun writer => { writer with level := writer.level + 1 }
  layout
  modify fun writer => { writer with level := writer.level - 1 }

/-- Write the comments before a node. Only the program has comments. -/
def leadingComments (span : Span) : Layout :=
  match span.origin with
  | .program => modify fun writer => writer.leading span.start
  | .replacement => pure ()

/-- Write the comments after a node. -/
def trailingComments (span : Span) : Layout :=
  match span.origin with
  | .program => modify fun writer => writer.trailing span.stop
  | .replacement => pure ()

/-- Write parts with something between them. -/
def between (separator : Layout) : List Layout -> Layout
  | [] => pure ()
  | [part] => part
  | first :: second :: rest => do
      first
      separator
      between separator (second :: rest)

/-- Write parts on one line, between commas. -/
def commaSeparated (parts : List Layout) : Layout := between (text ", ") parts

/-- Write parts each on lines of its own, indented. -/
def lines (parts : List Layout) : Layout := do
  newLine
  indented do
    for part in parts do
      part
      newLine

/-- Write parts each on lines of its own, indented and with commas between them. -/
def commaLines (parts : List Layout) : Layout := do
  newLine
  indented (between (do text ","; newLine) parts)
  newLine

end Print
end Program
end ErrorTemplates
