import ErrorTemplates.Diagnostic.Issue
import ErrorTemplates.Extraction.Call
import ErrorTemplates.Extraction.Definition
import ErrorTemplates.Extraction.Table
import ErrorTemplates.Program.Source

/-!
# The progress of an extraction

What has been found so far: the table, the warnings, the declarations of the factory and
some counts. The first argument that is not constant ends the extraction.
-/

namespace ErrorTemplates
namespace Extraction

open Diagnostic
open Program

/-- The texts from which a tree was read. Both are known under the path of the program. -/
structure Sources where
  /-- The program. -/
  program : Source
  /-- The text of the replacement for the definition of the factory. -/
  replacement : List Char

/-- The location of the beginning of a span. -/
def Sources.locate (sources : Sources) (span : Span) : Text.Location :=
  match span.origin with
  | .program => sources.program.locate span.start
  | .replacement => Text.locate sources.program.file sources.replacement span.start

/-- What has been counted. -/
structure Statistics where
  /-- The calls that make errors. -/
  calls : Nat
  /-- The calls whose message was recorded and removed. -/
  stripped : Nat
  /-- The calls among them whose pair of name space and code had a template already. -/
  duplicates : Nat
  /-- The calls that were left because they were wrapped and thrown. -/
  wrapped : Nat
  /-- The declarations of the factory. -/
  definitions : Nat
  /-- The declaration of the factory was replaced. -/
  substituted : Bool
  deriving DecidableEq

/-- Nothing has been counted. -/
def Statistics.zero : Statistics :=
  { calls := 0
    stripped := 0
    duplicates := 0
    wrapped := 0
    definitions := 0
    substituted := false }

/-- What has been found so far. -/
structure Progress where
  /-- The templates. -/
  table : Table
  /-- The warnings in the order in which they were raised. -/
  issues : List Issue
  /-- The declarations of the factory. -/
  sites : Sites
  /-- The counts. -/
  statistics : Statistics
  /-- The error that ended the extraction. -/
  failure : Option Issue

namespace Progress

/-- Nothing has been found. -/
def start : Progress :=
  { table := .empty, issues := [], sites := .none, statistics := .zero, failure := none }

/-- The extraction has ended with an error. -/
def isStopped (progress : Progress) : Bool := progress.failure.isSome

/-- Count a call that makes an error. -/
def countMatch (progress : Progress) : Progress :=
  { progress with
    statistics :=
      { progress.statistics with calls := progress.statistics.calls + 1 } }

/-- End the extraction at an argument that is not constant. -/
def stop
    (progress : Progress)
    (location : Text.Location)
    (space : String)
    (argument : Argument) : Progress :=
  { progress with failure := some (.notConstant location space argument) }

/-- Warn of a call that is wrapped and thrown. -/
def warnWrapped
    (progress : Progress)
    (location : Text.Location)
    (space code : String) : Progress :=
  { progress with
    issues := progress.issues ++ [.wrapped location space code]
    statistics :=
      { progress.statistics with wrapped := progress.statistics.wrapped + 1 } }

/-- Record the template of a call. -/
def recordEntry (progress : Progress) (entry : Entry) : Progress :=
  let repeats := if progress.table.outcome entry = .updated then 1 else 0
  { progress with
    table := progress.table.insert entry
    statistics :=
      { progress.statistics with
        duplicates := progress.statistics.duplicates + repeats
        stripped := progress.statistics.stripped + 1 } }

/-- Record a declaration of the factory. -/
def recordSite (progress : Progress) (span : Span) : Progress :=
  { progress with sites := progress.sites.record span }

end Progress

/-- Judge a call that makes an error: whether it loses its message, and what it adds to the
progress. A call that is thrown inside of another error keeps its message, and so does one
that ends the extraction; of any other call the template is recorded. -/
def judge
    (sources : Sources)
    (isThrown : Bool)
    (span : Span)
    (found : Match)
    (progress : Progress) : Bool × Progress :=
  let progress := progress.countMatch
  let space := found.maker.space
  match constant? found.code, constant? found.message with
  | none, _ => (false, progress.stop (sources.locate found.code.span) space .code)
  | some _, none => (false, progress.stop (sources.locate found.message.span) space .message)
  | some code, some template =>
      if isThrown then (false, progress.warnWrapped (sources.locate span) space code)
      else (true, progress.recordEntry { space, code, template })

/-- Examine a call, which may make an error. -/
def examine
    (naming : Naming)
    (sources : Sources)
    (isThrown : Bool)
    (call : Call)
    (progress : Progress) : Bool × Progress :=
  match naming.match? call.callee call.arguments with
  | none => (false, progress)
  | some found => judge sources isThrown call.span found progress

end Extraction
end ErrorTemplates
