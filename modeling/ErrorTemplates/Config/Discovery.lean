import ErrorTemplates.Config.Read
import ErrorTemplates.Files.Host

/-!
# Finding the configuration

The configuration file that applies to a directory is the nearest one in it or in a
directory above it. The search ends at the top of a repository, whose own configuration
file still counts, and at the end of the path that it started from.
-/

namespace ErrorTemplates
namespace Config

open Files

/-- The name of a configuration file. -/
def fileName : Path := ".minerrrc.json".toList

/-- The name of what marks the top of a repository. -/
def repositoryMark : Path := ".git".toList

/-- A configuration and where it comes from. -/
structure Loaded where
  /-- The configuration. -/
  config : Config
  /-- The directory to which paths in the configuration are relative. -/
  base : Path
  /-- The configuration was read from a file. -/
  fromFile : Bool

/-- The path that a path in the configuration stands for. -/
def Loaded.resolve (loaded : Loaded) (path : String) : Path := loaded.base.join path.toList

/-- Why there is no configuration. -/
inductive LoadError
  | unreadable (path : Path) (error : OsError)
  | malformed (path : Path) (text : String) (fault : Json.Fault)
  | invalid (reason : Invalid)

/-- Why there is no configuration, in words. -/
def LoadError.message : LoadError -> String
  | .unreadable path error =>
      "Failed to read config file: " ++ Text.quoted path ++ ": " ++ error.message
  | .malformed path text fault =>
      "Failed to parse config file: " ++ Text.quoted path ++ ": " ++ fault.describe text
  | .invalid reason => reason.message

section

variable {m : Type -> Type} [Monad m] [Host m]

/-- Search for a configuration file from a directory upward. -/
def findFrom : (limit : Nat) -> Path -> m (Option Path)
  | 0, _ => return none
  | limit + 1, directory => do
      let candidate := directory.join fileName
      if ← Host.pathExists candidate then return some candidate
      else if ← Host.pathExists (directory.join repositoryMark) then return none
      else
        match directory.parent? with
        | none => return none
        | some parent => findFrom limit parent

/-- Find the configuration file that applies to a directory. Every parent is shorter than
the path below it, so the length of the path bounds the search. -/
def find (directory : Path) : m (Option Path) := findFrom (directory.length + 1) directory

/-- Read a configuration file. -/
def loadFile (directory path : Path) : m (Except LoadError Loaded) := do
  match ← Host.readText path with
  | .error error => return .error (.unreadable path error)
  | .ok text =>
      match Config.parse text with
      | .error fault => return .error (.malformed path text fault)
      | .ok config =>
          match config.validate with
          | .error reason => return .error (.invalid reason)
          | .ok () =>
              return .ok { config, base := path.parent?.getD directory, fromFile := true }

/-- Load the configuration that applies to a directory. -/
def load (directory : Path) : m (Except LoadError Loaded) := do
  match ← find directory with
  | some path => loadFile directory path
  | none => return .ok { config := default, base := directory, fromFile := false }

end

end Config
end ErrorTemplates
