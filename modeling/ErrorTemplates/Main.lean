import ErrorTemplates.CommandLine.Run

/-!
# The program

The operating system as a host of commands, and the entry point.
-/

namespace ErrorTemplates
namespace Files

/-- What is known of the run of a program. -/
structure Session where
  /-- When the program started, in nanoseconds. -/
  start : Nat
  /-- Times are shown. -/
  showsTimes : Bool

/-- An error by its number, which may have been negated, in the words of the operating
system. -/
def OsError.ofCode (code : UInt32) (details : String) : OsError :=
  let number := if code < 0x80000000 then code else 0 - code
  if number = 2 then .notFound
  else if number = 17 then .exists
  else if number = 20 then .notDirectory
  else if number = 21 then .isDirectory
  else .other (details.capitalize ++ " (os error " ++ toString number ++ ")")

/-- What went wrong with an operation on files. -/
def OsError.ofFailure : IO.Error -> OsError
  | .noFileOrDirectory _ code details => .ofCode code details
  | .alreadyExists _ code details => .ofCode code details
  | .inappropriateType _ code details => .ofCode code details
  | .permissionDenied _ code details => .ofCode code details
  | .resourceExhausted _ code details => .ofCode code details
  | .invalidArgument _ code details => .ofCode code details
  | .noSuchThing _ code details => .ofCode code details
  | .otherError code details => .ofCode code details
  | error => .other (toString error)

/-- Keep the error of an operation. -/
def guarded {α : Type} (operation : IO α) : IO (Except OsError α) := do
  try
    return .ok (← operation)
  catch error =>
    return .error (.ofFailure error)

/-- A path as a text. -/
def textOf (path : Path) : String := String.ofList path

/-- Open a file. -/
def opened (path : Path) (mode : IO.FS.Mode) : IO IO.FS.Handle :=
  IO.FS.Handle.mk (textOf path) mode

/-- A path leads somewhere. -/
def leadsSomewhere (path : Path) : IO Bool := do
  match ← guarded (opened path .read) with
  | .ok _ => return true
  | .error .notFound => return false
  | .error .notDirectory => return false
  | .error _ => return true

/-- The text of a file. -/
def textAt (path : Path) : IO (Except OsError String) := do
  match ← guarded (IO.FS.readBinFile (textOf path)) with
  | .error error => return .error error
  | .ok content =>
      match String.fromUTF8? content with
      | some text => return .ok text
      | none => return .error .notText

/-- Add bytes to an open file. -/
def addBytes (file : IO.FS.Handle) (bytes : List UInt8) : IO Nat := do
  file.write ⟨bytes.toArray⟩
  file.flush
  return bytes.length

/-- The stream of the process. -/
def Stream.ofProcess : Stream -> BaseIO IO.FS.Stream
  | .output => IO.getStdout
  | .errors => IO.getStderr

/-- Write a text to a stream. -/
def sayOn (stream : Stream) (text : String) : IO Unit := do
  let stream ← stream.ofProcess
  stream.putStr text
  stream.flush

instance : Host (ReaderT Session IO) where
  File := IO.FS.Handle
  currentDirectory := fun _ => guarded do return (← IO.currentDir).toString.toList
  pathExists path := fun _ => leadsSomewhere path
  isDirectory path := fun _ => leadsSomewhere (path ++ ['/', '.'])
  readText path := fun _ => textAt path
  makeDirectory path := fun _ => guarded (IO.FS.createDir (textOf path))
  create path := fun _ => guarded (opened path .write)
  write file bytes := fun _ => guarded (addBytes file bytes)
  say stream text := fun _ => guarded (sayOn stream text)
  elapsed := fun session => do
    let now ← IO.monoNanosNow
    return if session.showsTimes then some (now - session.start) else none

end Files
end ErrorTemplates

open ErrorTemplates

/-- Run the command line of the process. -/
def main (arguments : List String) : IO UInt32 := do
  let start ← IO.monoNanosNow
  let showsTimes := (← IO.getEnv "MINERR_DISABLE_TIMING").isNone
  let forced ← IO.getEnv "CLICOLOR_FORCE"
  let refused ← IO.getEnv "NO_COLOR"
  let wanted ← IO.getEnv "CLICOLOR"
  let isTerminal ← (← IO.getStdout).isTty
  let inColour := Diagnostic.usesColour forced refused wanted isTerminal
  let session : Files.Session := { start, showsTimes }
  (CommandLine.run inColour arguments : ReaderT Files.Session IO UInt32).run session
