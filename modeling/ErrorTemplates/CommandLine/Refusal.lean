import ErrorTemplates.CommandLine.Parameter

/-!
# Refused command lines

Why a command line is refused. The text begins with the reason; advice, the usage of the
command and a hint at its help follow.
-/

namespace ErrorTemplates
namespace CommandLine

/-- Advice about an argument that was not understood. -/
inductive Advice
  /-- An option of this name was meant. -/
  | option (name : String)
  /-- An option of another command was meant. -/
  | optionOf (command name : String)
  /-- The argument can be given as a value. -/
  | asValue
  deriving DecidableEq

/-- Why a command line is refused. -/
inductive Refusal
  /-- A command does not have this argument. -/
  | unknownArgument
      (topic : Topic) (argument : String) (used : List Parameter) (advice : Option Advice)
  /-- There is no command of this name. -/
  | unknownCommand (topic : Topic) (name : String) (similar : List String)
  /-- A command stands behind the mark that ends the options. -/
  | markedCommand (name : String)
  /-- There is no input. -/
  | inputMissing (used : List Parameter)
  /-- A parameter has no value, or a path has an empty one. -/
  | valueMissing (parameter : Parameter)
  /-- A parameter stands twice. -/
  | repeated (parameter : Parameter)
  /-- An option that has no value has one. -/
  | valueUnexpected
      (topic : Topic) (parameter : Parameter) (value : String) (used : List Parameter)
  deriving DecidableEq

namespace Refusal

/-- The command that refuses. -/
def topic : Refusal -> Topic
  | .unknownArgument topic _ _ _ => topic
  | .unknownCommand topic _ _ => topic
  | .markedCommand _ => .program
  | .inputMissing _ => .extract
  | .valueMissing _ => .extract
  | .repeated _ => .extract
  | .valueUnexpected topic _ _ _ => topic

/-- The reason. -/
def reason : Refusal -> String
  | .unknownArgument _ argument _ _ => "unexpected argument '" ++ argument ++ "' found"
  | .unknownCommand _ name _ => "unrecognized subcommand '" ++ name ++ "'"
  | .markedCommand name => "unexpected argument '" ++ name ++ "' found"
  | .inputMissing _ =>
      "the following required arguments were not provided:\n  " ++ Parameter.input.display
  | .valueMissing parameter =>
      "a value is required for '" ++ parameter.display ++ "' but none was supplied"
  | .repeated parameter =>
      "the argument '" ++ parameter.display ++ "' cannot be used multiple times"
  | .valueUnexpected _ parameter value _ =>
      "unexpected value '" ++ value ++ "' for '" ++ parameter.display ++
        "' found; no more were expected"

/-- Advice in words. -/
def adviceText (argument : String) : Advice -> String
  | .option name => "a similar argument exists: '--" ++ name ++ "'"
  | .optionOf command name => "'" ++ command ++ " --" ++ name ++ "' exists"
  | .asValue => "to pass '" ++ argument ++ "' as a value, use '-- " ++ argument ++ "'"

/-- Names in quotes. -/
def quotedNames (names : List String) : String :=
  String.intercalate ", " (names.map fun name => "'" ++ name ++ "'")

/-- What to do instead. -/
def tip? : Refusal -> Option String
  | .unknownArgument _ argument _ advice => adviceText argument <$> advice
  | .unknownCommand _ _ [] => none
  | .unknownCommand _ _ [name] =>
      some ("a similar subcommand exists: " ++ quotedNames [name])
  | .unknownCommand _ _ names =>
      some ("some similar subcommands exist: " ++ quotedNames names)
  | .markedCommand name =>
      some ("subcommand '" ++ name ++ "' exists; to use it, remove the '--' before it")
  | _ => none

/-- The usage that is shown. -/
def usage? : Refusal -> Option String
  | .unknownArgument topic _ used _ => some (topic.usageWith used)
  | .unknownCommand topic _ _ => some topic.usage
  | .markedCommand _ => some Topic.program.usage
  | .inputMissing used => some (Topic.extract.usageWith (used ++ [.input]))
  | .valueMissing _ => none
  | .repeated _ => some Topic.extract.usage
  | .valueUnexpected topic _ _ used => some (topic.usageWith used)

/-- The parts of the text, which stand apart. -/
def paragraphs (refusal : Refusal) : List String :=
  ["error: " ++ refusal.reason] ++
    (refusal.tip?.map fun tip => "  tip: " ++ tip).toList ++
    (refusal.usage?.map fun usage => "Usage: " ++ usage).toList ++
    (if refusal.topic.options.contains .help then
      ["For more information, try '--help'."]
    else [])

/-- The text. -/
def text (refusal : Refusal) : String :=
  String.intercalate "\n\n" refusal.paragraphs ++ "\n"

/-- The first line of the text. -/
def firstLine (refusal : Refusal) : String :=
  String.ofList (refusal.text.toList.takeWhile fun character => character != '\n')

end Refusal

end CommandLine
end ErrorTemplates
