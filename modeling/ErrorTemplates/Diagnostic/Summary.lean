import ErrorTemplates.Diagnostic.Elapsed
import ErrorTemplates.Diagnostic.Report
import ErrorTemplates.Extraction.Progress

/-!
# Summaries

What is told at the end of an extraction: the number of templates, what was counted, and
how long it took.
-/

namespace ErrorTemplates
namespace Diagnostic

/-- The line that tells how many templates were extracted from a file. -/
def successLine (file : String) (templates spaces : Nat) : Styled :=
  [successMark, .plain " ",
    { style := .of .green
      text := "Extracted " ++ toString templates ++ " " ++
        counted templates "template" "templates" ++ " in " ++ toString spaces ++ " " ++
        counted spaces "namespace" "namespaces" ++ " from " ++ file },
    lineEnd]

/-- What became of the definition of the factory. -/
def definitionFate (statistics : Extraction.Statistics) : String :=
  if statistics.definitions = 0 then "none found"
  else if statistics.substituted then "substituted"
  else toString statistics.definitions ++ " kept"

/-- What was counted, line by line. -/
def statisticsRows (statistics : Extraction.Statistics) : List Styled :=
  [[{ style := .bold, text := "matched" },
    .plain (" " ++ toString statistics.calls ++ " minErr call(s): " ++
      toString statistics.stripped ++ " rewritten, " ++ toString statistics.wrapped ++
      " left inside throw"), lineEnd]] ++
  (if 0 < statistics.duplicates then
    [[{ style := .boldOf .yellow, text := "duplicate" },
      .plain (" " ++ toString statistics.duplicates ++
        " code(s) recorded more than once; the last template wins"), lineEnd]]
  else []) ++
  [[{ style := .bold, text := "definition" },
    .plain (" " ++ definitionFate statistics), lineEnd]]

/-- The lines that tell what was counted. -/
def statisticsLines (statistics : Extraction.Statistics) : Styled :=
  (statisticsRows statistics).flatten

/-- The line that tells how long a phase took. -/
def timingLine (phase : String) (nanoseconds : Nat) : Styled :=
  [{ style := .dimmed, text := "timing" },
    .plain (" " ++ phase ++ " in " ++ millisecondText nanoseconds ++ "ms"), lineEnd]

end Diagnostic
end ErrorTemplates
