import ErrorTemplates.Extraction.Visit
import ErrorTemplates.Program.Language

/-!
# Extracting templates

One run over a program gives the table of its templates and leaves the program without
them. The declaration of the factory is replaced afterwards if there is exactly one. A run
that ends with an error has no table.
-/

namespace ErrorTemplates
namespace Extraction

open Diagnostic
open Program

/-- The declaration that takes the place of the definition of the factory. -/
structure Replacement where
  /-- The declaration. -/
  declaration : Declaration
  /-- The text that it was read from. -/
  text : List Char

/-- What an extraction is asked to do. -/
structure Setup where
  /-- The names by which calls are recognised. -/
  naming : Naming
  /-- The declaration that takes the place of the definition of the factory. -/
  replacement : Option Replacement

/-- The result of a run. -/
inductive Outcome
  /-- The templates, the warnings and the counts. -/
  | completed (table : Table) (issues : List Issue) (statistics : Statistics)
  /-- The error, and the warnings before it. -/
  | aborted (error : Issue) (issues : List Issue)

/-- The name under which the text of a replacement is known. -/
def replacementFile : String := "<minerr-replacement>"

namespace Setup

/-- A setup whose replacement is given as a text. -/
def ofText [Language] (naming : Naming) (replacement : Option String) :
    Except Unreadable Setup :=
  match replacement with
  | none => .ok { naming, replacement := none }
  | some text =>
      let source := Source.ofText replacementFile text
      match source.fragmentOf (Language.parse source .replacement) with
      | .ok declaration =>
          .ok { naming, replacement := some { declaration, text := source.text } }
      | .error failure => .error failure

/-- The texts from which a program and the replacement were read. -/
def sources (setup : Setup) (program : Source) : Sources :=
  { program
    replacement :=
      match setup.replacement with
      | some replacement => replacement.text
      | none => [] }

/-- Visit all items of a program. -/
def visitProgram (setup : Setup) (sources : Sources) (program : Program) :
    Program × Progress :=
  let (items, progress) :=
    (visitAll setup.naming sources .plain program.items).run .start
  ({ program with items }, progress)

/-- The counts of a visit that has ended without an error. -/
def counted (progress : Progress) : Statistics :=
  { progress.statistics with definitions := progress.sites.size }

/-- Complete a visit that has ended without an error. -/
def complete (setup : Setup) (sources : Sources) (program : Program) (progress : Progress) :
    Outcome × Program :=
  let statistics := counted progress
  match progress.sites.plan setup.replacement.isSome, setup.replacement with
  | .substitute, some replacement =>
      let count := spliceCountAll setup.naming.factory program.items
      (.completed progress.table progress.issues
          { statistics with substituted := decide (0 < count) },
        spliceProgram setup.naming.factory replacement.declaration program)
  | .ambiguous count second, _ =>
      let issue := Issue.ambiguous (sources.locate second) setup.naming.factory count
      (.completed progress.table (progress.issues ++ [issue]) statistics, program)
  | _, _ => (.completed progress.table progress.issues statistics, program)

/-- Extract the templates of a program whose spans belong to the given texts. -/
def runOn (setup : Setup) (sources : Sources) (program : Program) : Outcome × Program :=
  let (program, progress) := setup.visitProgram sources program
  match progress.failure with
  | some error => (.aborted error progress.issues, program)
  | none => setup.complete sources program progress

/-- Extract the templates of a program that was read from a source. -/
def run (setup : Setup) (source : Source) (program : Program) : Outcome × Program :=
  setup.runOn (setup.sources source) program

end Setup

end Extraction
end ErrorTemplates
