import ErrorTemplates.CommandLine.Extract
import ErrorTemplates.CommandLine.Init

/-!
# Running a command line

A request is carried out on a system. A command line as a whole ends with a number that
tells how: zero for success, one for an unfit input, two for a failure or a refusal, and another
one when it has broken off.
-/

namespace ErrorTemplates
namespace CommandLine

open Files

/-- The number with which a program ends. -/
def Status.exitCode : Status -> UInt32
  | .success => 0
  | .failure => 1

/-- The number with which a program ends that has broken off. -/
def brokenCode : UInt32 := 101

/-- The number with which a program ends that has failed. -/
def Failure.exitCode : Failure -> UInt32
  | .brokenOff _ => brokenCode
  | _ => 2

/-- What is told of a failure. -/
def Failure.text : Failure -> String
  | .brokenOff reason => reason ++ "\n"
  | failure => "Error: " ++ failure.message ++ "\n"

section

variable {m : Type -> Type} [Monad m] [Host m]

/-- Write to the standard output, which need not arrive, and succeed. -/
def answer (text : String) : ExceptT Failure m Status := do
  offer .output text
  return .success

/-- Tell of a failure and end with its number. -/
def fail (failure : Failure) : m UInt32 := do
  match ← Host.say .errors failure.text with
  | .error _ => return brokenCode
  | .ok () => return failure.exitCode

/-- Refuse a command line, which need not arrive. -/
def refuse (refusal : Refusal) : m UInt32 := do
  let _ ← Host.say .errors refusal.text
  return 2

variable [Text.Measure] [Program.Language]

/-- Carry out a request. -/
def Request.run (inColour : Bool) : Request -> ExceptT Failure m Status
  | .overview => answer Topic.program.helpText
  | .help topic => answer topic.helpText
  | .version => answer versionText
  | .extract options => extractTemplates inColour options
  | .init => makeConfig inColour

/-- Run a command line. -/
def run (inColour : Bool) (arguments : List String) : m UInt32 := do
  match Request.read arguments with
  | .error refusal => refuse refusal
  | .ok request =>
      match ← (request.run inColour : ExceptT Failure m Status).run with
      | .error failure => fail failure
      | .ok status => return status.exitCode

end

end CommandLine
end ErrorTemplates
