import ErrorTemplates.CommandLine.Failure
import ErrorTemplates.Diagnostic.Report

/-!
# The command that makes a configuration file

A configuration file with the default configuration is made in the working directory. One
that is there is left alone.
-/

namespace ErrorTemplates
namespace CommandLine

open Files
open Diagnostic (Piece Styled)

/-- The line that tells that there is a configuration file. -/
def configExists : Styled :=
  [Diagnostic.failureMark, .plain " ",
    { style := .of .red, text := String.ofList Config.fileName ++ " already exists" },
    Diagnostic.lineEnd]

/-- The line that tells that a configuration file was made. -/
def configCreated : Styled :=
  [Diagnostic.successMark, .plain " ",
    { style := .of .green, text := "Created " ++ String.ofList Config.fileName },
    Diagnostic.lineEnd]

section

variable {m : Type -> Type} [Monad m] [Host m]

/-- The name of a stream. -/
def streamName : Stream -> String
  | .output => "stdout"
  | .errors => "stderr"

/-- Tell something that has to arrive. -/
def announce (inColour : Bool) (stream : Stream) (text : Styled) : ExceptT Failure m Unit :=
  let broken (error : OsError) :=
    Failure.brokenOff ("failed printing to " ++ streamName stream ++ ": " ++ error.message)
  attempt broken (Host.say (m := m) stream (text.render inColour))

/-- Make a configuration file. -/
def makeConfig (inColour : Bool) : ExceptT Failure m Status := do
  if ← liftM (Host.pathExists Config.fileName : m Bool) then
    announce inColour .errors configExists
    return .failure
  else
    writeFile .writeConfig Config.fileName Config.defaultText
    announce inColour .output configCreated
    return .success

end

end CommandLine
end ErrorTemplates
