import ErrorTemplates.CommandLine.Failure
import ErrorTemplates.CommandLine.Request
import ErrorTemplates.Diagnostic.Summary
import ErrorTemplates.Extraction.Run

/-!
# The command that extracts templates

The configuration of the working directory is read and the options are put over it. Then
the input is read, its templates are extracted, and the program without them and the table
are written. What is told about it goes to the standard output unless the program goes
there.
-/

namespace ErrorTemplates
namespace CommandLine

open Files
open Extraction (Naming Setup Table)
open Diagnostic (Issue Row Styled)
open Program (Language Source)

/-- What an extraction works with. -/
structure Settings where
  /-- The names by which calls are recognised. -/
  naming : Naming
  /-- The text of the replacement for the definition of the factory. -/
  replacement : Option String
  /-- Where the table goes. -/
  messages : Path

/-- A configuration with the options put over it. -/
def overridden (options : ExtractOptions) (config : Config) : Config :=
  { config with
    factory := options.factory.getD config.factory
    suffix := options.suffix.getD config.suffix }

/-- The path of the replacement. -/
def replacementPath?
    (options : ExtractOptions)
    (directory : Path)
    (loaded : Config.Loaded) : Option Path :=
  match options.replacement, loaded.config.replacement with
  | some path, _ => some (directory.join path.toList)
  | none, some path => some (loaded.resolve path)
  | none, none => none

/-- The path of the table. -/
def messagesPath (options : ExtractOptions) (directory : Path) (loaded : Config.Loaded) :
    Path :=
  match options.messages with
  | some path => directory.join path.toList
  | none => loaded.resolve loaded.config.messages

/-- Where diagnostics go: to the standard output unless the program goes there. -/
def ExtractOptions.stream (options : ExtractOptions) : Stream :=
  if options.output.isSome then .output else .errors

section

variable {m : Type -> Type} [Monad m] [Host m]

/-- Find out what an extraction works with. -/
def settingsFor (options : ExtractOptions) (directory : Path) :
    ExceptT Failure m Settings := do
  match ← liftM (Config.load directory : m (Except Config.LoadError Config.Loaded)) with
  | .error error => throw (.config error)
  | .ok loaded =>
      let config := overridden options loaded.config
      if let .error reason := config.validate then throw (.invalid reason)
      let replacement ←
        match replacementPath? options directory loaded with
        | none => pure none
        | some path => some <$> attempt (.readReplacement path) (Host.readText (m := m) path)
      return {
        naming := { factory := config.factory, suffix := config.suffix }
        replacement
        messages := messagesPath options directory loaded }

/-- Write a text to a stream. What does not arrive is given up. -/
def offer (stream : Stream) (text : String) : ExceptT Failure m Unit := do
  let _ ← liftM (Host.say stream text : m (Except OsError Unit))

/-- Tell something on a stream. -/
def tell (inColour : Bool) (stream : Stream) (text : Styled) : ExceptT Failure m Unit :=
  offer stream (text.render inColour)

/-- Tell rows one after the other, up to the first that cannot be written. -/
def tellRows (inColour : Bool) (stream : Stream) : List Row -> ExceptT Failure m Unit
  | [] => return ()
  | row :: rest => do
      match row.write? inColour with
      | none => throw (.brokenOff "Formatting argument out of range")
      | some text =>
          offer stream text
          tellRows inColour stream rest

/-- Tell how long it took to come here. -/
def tellTime (inColour : Bool) (phase : String) : ExceptT Failure m Unit := do
  match ← liftM (Host.elapsed : m (Option Nat)) with
  | some nanoseconds => tell inColour .errors (Diagnostic.timingLine phase nanoseconds)
  | none => return ()

/-- Write the program without templates. -/
def writeProgram (options : ExtractOptions) (directory : Path) (text : String) :
    ExceptT Failure m Unit := do
  match options.output with
  | none => attempt .printProgram (Host.say (m := m) .output text)
  | some output =>
      let path := directory.join output.toList
      makeParent path
      writeFile (.writeOutput path) path text

/-- Write the table. Bytes that still wait when that fails are offered once more. -/
def writeMessages (path : Path) (table : Table) : ExceptT Failure m Unit := do
  makeParent path
  let file ← attempt (.createMessages path) (Host.create (m := m) path)
  let sink := fileSink (m := m) file
  let (written, waiting) ← liftM ((table.write sink.buffered).run [])
  let _ ← liftM (sink.drainAll.run waiting)
  match written with
  | .error failure => throw (.writeMessages failure)
  | .ok () => return ()

/-- Tell what has become of an extraction. -/
def tellResults
    (inColour : Bool)
    (options : ExtractOptions)
    (table : Table)
    (statistics : Extraction.Statistics) : ExceptT Failure m Unit := do
  if options.isVerbose then
    (Diagnostic.statisticsRows statistics).forM (tell inColour .errors)
    tellTime inColour "finished"
  tell inColour options.stream
    (Diagnostic.successLine options.input table.size table.names.length)

/-- Write the table after the program, and tell what has become of the extraction. -/
def finishResults
    (inColour : Bool)
    (options : ExtractOptions)
    (messages : Path)
    (table : Table)
    (statistics : Extraction.Statistics) : ExceptT Failure m Status := do
  writeMessages messages table
  tellResults inColour options table statistics
  return .success

/-- Write the results of a completed run. -/
def writeResults
    (inColour : Bool)
    (options : ExtractOptions)
    (directory messages : Path)
    (printed : String)
    (table : Table)
    (statistics : Extraction.Statistics) : ExceptT Failure m Status := do
  writeProgram options directory printed
  finishResults inColour options messages table statistics

variable [Text.Measure] [Program.Language]

/-- Tell of issues where diagnostics go. -/
def tellIssues (inColour : Bool) (options : ExtractOptions) (issues : List Issue) :
    ExceptT Failure m Unit :=
  tellRows inColour options.stream (Diagnostic.reportRows issues)

/-- Extract the templates of a program that has been read. -/
def extractParsed
    (inColour : Bool)
    (options : ExtractOptions)
    (directory messages : Path)
    (setup : Setup)
    (source : Source)
    (parsed : Program.Parsed) : ExceptT Failure m Status := do
  if options.isVerbose then tellTime inColour "parsed"
  let (outcome, program) := setup.run source parsed.program
  match outcome with
  | .aborted error issues =>
      tellIssues inColour options (issues ++ [error])
      return .failure
  | .completed table issues statistics =>
      tellIssues inColour options issues
      let printed := Language.print program parsed.comments
      writeResults inColour options directory messages printed table statistics

/-- Extract the templates of a text. -/
def extractText
    (inColour : Bool)
    (options : ExtractOptions)
    (directory messages : Path)
    (setup : Setup)
    (text : String) : ExceptT Failure m Status := do
  let source := Source.ofText options.input text
  match Language.parse source .program with
  | .error failure =>
      tellIssues inColour options [.unreadable failure.location failure.reason]
      return .failure
  | .ok parsed => extractParsed inColour options directory messages setup source parsed

/-- Extract templates. -/
def extractTemplates (inColour : Bool) (options : ExtractOptions) : ExceptT Failure m Status := do
  let directory ← attempt .directory (Host.currentDirectory (m := m))
  let settings ← settingsFor options directory
  let path := directory.join options.input.toList
  let text ← attempt (.readInput path) (Host.readText (m := m) path)
  match Setup.ofText settings.naming settings.replacement with
  | .error failure => throw (.replacement failure)
  | .ok setup => extractText inColour options directory settings.messages setup text

end

end CommandLine
end ErrorTemplates
