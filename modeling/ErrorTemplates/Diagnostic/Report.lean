import ErrorTemplates.Diagnostic.Issue
import ErrorTemplates.Diagnostic.Padding
import ErrorTemplates.Text.Measure

/-!
# Reports

A report shows every issue once, in the order of their locations, with the line on which
it was found and a caret below the place. A count of all issues comes last. The numbers of
the lines share a margin that has room for the largest of them.
-/

namespace ErrorTemplates
namespace Diagnostic

/-- A location comes before another one: by file, then by line, then by column. -/
def before (one other : Text.Location) : Bool :=
  if one.file = other.file then
    if one.line = other.line then one.column < other.column else one.line < other.line
  else one.file < other.file

/-- An issue may stand before another one. -/
def inOrder (one other : Issue) : Bool := !before other.location one.location

/-- Issues in the order of their locations. Issues at one location keep their order. -/
def sorted (issues : List Issue) : List Issue := issues.mergeSort inOrder

/-- The digits of the largest line number. -/
def marginWidth (issues : List Issue) : Nat :=
  (toString ((issues.map fun issue => issue.location.line).foldl max 0)).length

/-- The columns before the caret of a location: those of the characters before its
column. -/
def caretIndent [Text.Measure] (location : Text.Location) : Nat :=
  Text.Measure.width (String.ofList (location.sourceLine.toList.take (location.column - 1)))

/-- The colour of a severity. -/
def severityColour : Severity -> Colour
  | .error => .red
  | .warning => .yellow

/-- The name of a severity. -/
def severityName : Severity -> String
  | .error => "error"
  | .warning => "warning"

/-- The end of a line. -/
def lineEnd : Piece := .plain "\n"

/-- The line beside the margin. -/
def rule : Piece := { style := .of .blue, text := "|" }

/-- An empty text that is padded. -/
def gap (width : Nat) : Part := .aligned width (.plain "")

/-- A part that is a text as it is. -/
def bare (text : String) : Part := .fixed (.plain text)

/-- The rows that show one issue. -/
def issueRows [Text.Measure] (width : Nat) (issue : Issue) : List Row :=
  let location := issue.location
  let colour := severityColour issue.severity
  [[.fixed { style := .boldOf colour, text := severityName issue.severity },
      bare (": " ++ issue.message ++ "  "),
      .fixed { style := .dimmedOf .cyan, text := issue.rule }, .fixed lineEnd],
    [bare "  ", .fixed { style := .of .blue, text := "-->" },
      bare (" " ++ location.file ++ ":" ++ toString location.line ++ ":" ++
        toString location.column), .fixed lineEnd],
    [gap width, bare " ", .fixed rule, .fixed lineEnd],
    [.aligned width { style := .of .blue, text := toString location.line }, bare " ",
      .fixed rule, bare (" " ++ location.sourceLine), .fixed lineEnd],
    [gap width, bare " ", .fixed rule, bare " ", gap (caretIndent location),
      .fixed { style := .of colour, text := "^" }, .fixed lineEnd]] ++
  (match issue.hint with
    | some hint =>
        [[gap width, bare " ", .fixed { style := .of .blue, text := "=" }, bare " ",
          .fixed { style := .boldOf .cyan, text := "hint:" }, bare (" " ++ hint),
          .fixed lineEnd]]
    | none => []) ++
  [[.fixed lineEnd]]

/-- A word for one thing or for several. -/
def counted (count : Nat) (one several : String) : String := if count = 1 then one else several

/-- The sign of a failure. -/
def failureMark : Piece := { style := .of .red, text := "✘" }

/-- The sign of a success. -/
def successMark : Piece := { style := .of .green, text := "✓" }

/-- The number of errors among issues. -/
def errorCount (issues : List Issue) : Nat := issues.countP Issue.isError

/-- The line that counts the issues. -/
def summaryLine (issues : List Issue) : Styled :=
  let errors := errorCount issues
  let warnings := issues.length - errors
  [failureMark, .plain (" " ++ toString issues.length ++ " problems (" ++
      toString errors ++ " "),
    { style := .of .red, text := counted errors "error" "errors" },
    .plain (", " ++ toString warnings ++ " "),
    { style := .of .yellow, text := counted warnings "warning" "warnings" },
    .plain ")", lineEnd]

/-- The rows of the report of issues. There are none if there are no issues. -/
def reportRows [Text.Measure] (issues : List Issue) : List Row :=
  if issues.isEmpty then []
  else
    let ordered := sorted issues
    (ordered.map (issueRows (marginWidth ordered))).flatten ++
      [(summaryLine ordered).map Part.fixed]

/-- The report of issues as it is written, row by row. There is none if a row cannot be written. -/
def writeReport? [Text.Measure] (inColour : Bool) (issues : List Issue) : Option String :=
  String.join <$> (reportRows issues).mapM (Row.write? inColour)

/-! ## Reports without bounds -/

/-- The lines that show one issue, whatever they are padded to. -/
def issueLines [Text.Measure] (width : Nat) (issue : Issue) : Styled :=
  ((issueRows width issue).map Row.styled).flatten

/-- The report of issues, whatever it is padded to. -/
def report [Text.Measure] (issues : List Issue) : Styled :=
  ((reportRows issues).map Row.styled).flatten

@[simp] theorem report_nil [Text.Measure] : report [] = [] := rfl

end Diagnostic
end ErrorTemplates
