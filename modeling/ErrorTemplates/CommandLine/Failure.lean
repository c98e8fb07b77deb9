import ErrorTemplates.Config.Discovery
import ErrorTemplates.Extraction.TableText
import ErrorTemplates.Program.Source

/-!
# Failed commands

How a command ends. It may succeed, it may find its input unfit, it may fail because of
something that is not its input, and it may break off.
-/

namespace ErrorTemplates
namespace CommandLine

open Files
open Extraction (Sink)
open Text (utf8)

/-- How a command that did not fail ends. -/
inductive Status
  /-- The work is done. There may be warnings. -/
  | success
  /-- The input is unfit, or what was to be made is there. -/
  | failure
  deriving DecidableEq

/-- Why a command fails. -/
inductive Failure
  | directory (error : OsError)
  | config (error : Config.LoadError)
  | invalid (reason : Config.Invalid)
  | readReplacement (path : Path) (error : OsError)
  | replacement (failure : Program.Unreadable)
  | readInput (path : Path) (error : OsError)
  | makeDirectory (path : Path) (error : OsError)
  | writeOutput (path : Path) (error : OsError)
  | printProgram (error : OsError)
  | createMessages (path : Path) (error : OsError)
  | writeMessages (failure : Extraction.WriteFailure)
  | writeConfig (error : OsError)
  /-- Something is told that cannot be told. That is not expected, and the command breaks off. -/
  | brokenOff (reason : String)

/-- What was done to a path, and the error. -/
def aboutPath (what : String) (path : Path) (error : OsError) : String :=
  what ++ ": " ++ String.ofList path ++ ": " ++ error.message

/-- Why a command fails, in words. -/
def Failure.message : Failure -> String
  | .directory error => "Failed to read current directory: " ++ error.message
  | .config error => error.message
  | .invalid reason => reason.message
  | .readReplacement path error => aboutPath "Failed to read replacement definition" path error
  | .replacement failure => "Invalid minErr replacement definition: " ++ failure.describe
  | .readInput path error => aboutPath "Failed to read input file" path error
  | .makeDirectory path error => aboutPath "Failed to create directory" path error
  | .writeOutput path error => aboutPath "Failed to write output file" path error
  | .printProgram error => "Failed to write program to stdout: " ++ error.message
  | .createMessages path error => aboutPath "Failed to create messages file" path error
  | .writeMessages failure => failure.message
  | .writeConfig error =>
      "Failed to write " ++ String.ofList Config.fileName ++ ": " ++ error.message
  | .brokenOff reason => reason

section

variable {m : Type -> Type} [Monad m] [Host m]

/-- Do something to the system, or fail. -/
def attempt {α : Type} (failure : OsError -> Failure) (action : m (Except OsError α)) :
    ExceptT Failure m α := do
  match ← liftM action with
  | .ok result => return result
  | .error error => throw (failure error)

/-- Make the directory of a path, unless the path is only a name. -/
def makeParent (path : Path) : ExceptT Failure m Unit := do
  match path.parent? with
  | none => return ()
  | some parent =>
      if parent.isEmpty then return ()
      else attempt (.makeDirectory parent) (makeDirectories (m := m) (parent.length + 1) parent)

/-- An open file takes bytes at once and keeps nothing back. -/
def fileSink (file : Host.File m) : Sink m where
  take bytes := do return (← Host.write file bytes).mapError OsError.message
  flush := return .ok ()

/-- Write a file. -/
def writeFile (failing : OsError -> Failure) (path : Path) (text : String) :
    ExceptT Failure m Unit := do
  let file ← attempt failing (Host.create (m := m) path)
  let bytes := utf8 text
  match ← liftM ((fileSink file).takeAll bytes.length bytes) with
  | .error reason => throw (failing (.other reason))
  | .ok () => return ()

end

end CommandLine
end ErrorTemplates
