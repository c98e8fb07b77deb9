import ErrorTemplates.CommandLine.Refusal
import ErrorTemplates.Text.Similarity

/-!
# Reading a command line

A command line is read from left to right. An option that still waits for its value, or a
value that stands for itself, is settled only when the next parameter begins or at the
end, so an argument that is not understood is refused before what is wrong with the one in
front of it. A value that is attached to its option is settled at once.
-/

namespace ErrorTemplates
namespace CommandLine

/-- What an extraction is asked for. -/
structure ExtractOptions where
  /-- The program. -/
  input : String
  /-- Where the program without templates goes. -/
  output : Option String
  /-- Where the table goes. -/
  messages : Option String
  /-- The file of the replacement for the definition of the factory. -/
  replacement : Option String
  /-- The name of the factory. -/
  factory : Option String
  /-- The suffix of direct calls. -/
  suffix : Option String
  /-- More is to be told. -/
  isVerbose : Bool
  deriving DecidableEq

/-- What a command line asks for. -/
inductive Request
  /-- Nothing in particular. -/
  | overview
  /-- The help about a command. -/
  | help (topic : Topic)
  /-- The version of the program. -/
  | version
  /-- An extraction. -/
  | extract (options : ExtractOptions)
  /-- A new configuration file. -/
  | init
  deriving DecidableEq

/-! ## The form of an argument -/

/-- An argument by its form. -/
inductive Form
  /-- The mark that ends the options. -/
  | mark
  /-- A name after two hyphens, and what follows an equals sign. -/
  | long (name : String) (value : Option String)
  /-- Letters after one hyphen. -/
  | short (letters : List Char)
  /-- Anything else. -/
  | plain

/-- The name before the first equals sign, and what follows it. -/
def splitValue (characters : List Char) : String × Option String :=
  let name := characters.takeWhile fun character => character != '='
  match characters.drop name.length with
  | [] => (String.ofList name, none)
  | _ :: value => (String.ofList name, some (String.ofList value))

/-- The form of an argument. A single hyphen is a value. -/
def formOf (argument : String) : Form :=
  match argument.toList with
  | ['-', '-'] => .mark
  | '-' :: '-' :: rest =>
      let (name, value) := splitValue rest
      .long name value
  | '-' :: letter :: rest => .short (letter :: rest)
  | _ => .plain

/-! ## The parameters of a command -/

/-- A parameter that is not settled. -/
structure Pending where
  /-- The parameter. -/
  parameter : Parameter
  /-- Its value, unless it waits for one. -/
  value : Option String

/-- What has been given to a command. -/
structure Given where
  /-- The command. -/
  topic : Topic
  /-- The settled parameters with their values, in order. -/
  settled : List (Parameter × String)
  /-- The parameter that is not settled. -/
  pending : Option Pending
  /-- Options have ended. -/
  isMarked : Bool

/-- Why a command line is not read to its end. -/
inductive Stop
  | refused (refusal : Refusal)
  | answered (request : Request)

namespace Given

/-- Nothing has been given. -/
def start (topic : Topic) : Given :=
  { topic, settled := [], pending := none, isMarked := false }

/-- The value of a settled parameter. -/
def value? (given : Given) (parameter : Parameter) : Option String :=
  given.settled.lookup parameter

/-- Settle a parameter. -/
def accept (given : Given) (parameter : Parameter) (value : String) :
    Except Refusal Given :=
  if (given.value? parameter).isSome then .error (.repeated parameter)
  else if parameter.isPath && value.isEmpty then .error (.valueMissing parameter)
  else .ok { given with settled := given.settled ++ [(parameter, value)] }

/-- Settle the parameter that is not settled. -/
def settle (given : Given) : Except Refusal Given :=
  match given.pending with
  | none => .ok given
  | some { parameter, value := none } => .error (.valueMissing parameter)
  | some { parameter, value := some value } =>
      { given with pending := none }.accept parameter value

/-- The options among the settled parameters, with the pending one if it can be settled. -/
def used (given : Given) : List Parameter :=
  let settled :=
    match given.settle with
    | .ok given => given.settled
    | .error _ => given.settled
  (settled.map Prod.fst).filter fun parameter => parameter != .input

/-- Refuse an argument. -/
def refuse {α : Type} (refusal : Refusal) : Except Stop α := .error (.refused refusal)

/-- Go on unless the parameters are refused. -/
def orRefuse {α : Type} : Except Refusal α -> Except Stop α
  | .ok result => .ok result
  | .error refusal => .error (.refused refusal)

/-- Give an option that has no value. -/
def giveFlag (given : Given) (parameter : Parameter) : Except Stop Given := do
  let given ← orRefuse given.settle
  match parameter with
  | .help => .error (.answered (.help given.topic))
  | .version => .error (.answered .version)
  | _ => orRefuse (given.accept parameter "")

/-- Give an option with the value that is attached to it. -/
def giveAttached (given : Given) (parameter : Parameter) (value : String) :
    Except Stop Given := do
  let given ← orRefuse given.settle
  orRefuse (given.accept parameter value)

/-- Give an option whose value follows. -/
def giveWaiting (given : Given) (parameter : Parameter) : Except Stop Given := do
  let given ← orRefuse given.settle
  return { given with pending := some { parameter, value := none } }

/-- A value can be given to the command itself. -/
def takesInput (given : Given) : Bool := given.topic = .extract

/-- An option of another command that may have been meant, if that command follows. -/
def optionOfCommand? (given : Given) (name : String) (following : List String) :
    Option Advice :=
  following.findSome? fun word => do
    let command ← given.topic.command? word
    let meant ← (Text.suggestions name command.optionNames).getLast?
    return .optionOf word meant

/-- Refuse an option by its name. -/
def refuseLong {α : Type} (given : Given) (name : String) (following : List String) :
    Except Stop α :=
  let argument := "--" ++ name
  match (Text.suggestions name given.topic.optionNames).getLast? with
  | some meant =>
      let used := given.used ++ (given.topic.ofLong? meant).toList
      refuse (.unknownArgument given.topic argument used.eraseDups (some (.option meant)))
  | none =>
      let advice :=
        if given.takesInput then some .asValue else given.optionOfCommand? name following
      refuse (.unknownArgument given.topic argument given.used advice)

/-- Give an option by its name. -/
def giveLong
    (given : Given)
    (name : String)
    (value : Option String)
    (following : List String) : Except Stop Given :=
  match given.topic.ofLong? name with
  | none => given.refuseLong name following
  | some parameter =>
      match parameter.takesValue, value with
      | true, some value => given.giveAttached parameter value
      | true, none => given.giveWaiting parameter
      | false, none => given.giveFlag parameter
      | false, some value =>
          let used := (given.used ++ [parameter]).eraseDups
          refuse (.valueUnexpected given.topic parameter value used)

/-- Refuse an option by its letter. -/
def refuseShort {α : Type} (given : Given) (letter : Char) : Except Stop α :=
  let advice := if given.takesInput then some Advice.asValue else none
  refuse (.unknownArgument given.topic (String.ofList ['-', letter]) [] advice)

/-- Give options by their letters. The first one that has a value takes the rest. -/
def giveShort (given : Given) : List Char -> Except Stop Given
  | [] => .ok given
  | letter :: rest =>
      match given.topic.ofShort? letter with
      | none => given.refuseShort letter
      | some parameter =>
          if parameter.takesValue then
            match rest with
            | [] => given.giveWaiting parameter
            | '=' :: value => given.giveAttached parameter (String.ofList value)
            | value => given.giveAttached parameter (String.ofList value)
          else do
            let given ← given.giveFlag parameter
            given.giveShort rest

/-- The input was given. -/
def hasInput (given : Given) : Bool :=
  (given.value? .input).isSome ||
    given.pending.any fun pending => pending.parameter = .input

/-- Give a value that belongs to no option. -/
def giveValue (given : Given) (value : String) : Except Stop Given := do
  if !given.takesInput || given.hasInput then
    refuse (.unknownArgument given.topic value [] none)
  else
    let given ← orRefuse given.settle
    return { given with pending := some { parameter := .input, value := some value } }

/-- Give an argument to the command. -/
def give (given : Given) (argument : String) (following : List String) :
    Except Stop Given :=
  if given.isMarked then given.giveValue argument
  else
    match formOf argument with
    | .mark => .ok { given with isMarked := true }
    | .long name value => given.giveLong name value following
    | .short letters => given.giveShort letters
    | .plain =>
        match given.pending with
        | some { parameter, value := none } =>
            .ok { given with pending := some { parameter, value := some argument } }
        | _ => given.giveValue argument

/-- Give all arguments to the command. -/
def giveAll (given : Given) : List String -> Except Stop Given
  | [] => orRefuse given.settle
  | argument :: following => do
      let given ← given.give argument following
      given.giveAll following

end Given

/-! ## Requests -/

/-- What a command that read all its arguments is asked for. -/
def requestOf (given : Given) : Except Refusal Request :=
  match given.topic, given.value? .input with
  | .extract, some input =>
      .ok (.extract
        { input
          output := given.value? .output
          messages := given.value? .messages
          replacement := given.value? .replacement
          factory := given.value? .factory
          suffix := given.value? .suffix
          isVerbose := (given.value? .verbose).isSome })
  | .extract, none => .error (.inputMissing given.used)
  | .init, _ => .ok .init
  | _, _ => .ok .overview

/-- What was asked for before the end. -/
def answerOf {α : Type} (next : α -> Except Refusal Request) :
    Except Stop α -> Except Refusal Request
  | .ok result => next result
  | .error (.refused refusal) => .error refusal
  | .error (.answered request) => .ok request

/-- Read the arguments of a command. -/
def readCommand (topic : Topic) (arguments : List String) : Except Refusal Request :=
  answerOf requestOf ((Given.start topic).giveAll arguments)

/-- Read which command help is asked about. -/
def readHelp : (topic : Topic) -> List String -> Except Refusal Request
  | topic, [] => .ok (.help topic)
  | topic, name :: rest =>
      match topic.command? name with
      | some command => readHelp command rest
      | none => .error (.unknownCommand topic name [])

/-- Refuse a command by its name. -/
def refuseCommand (isMarked : Bool) (name : String) : Refusal :=
  if isMarked && (Topic.program.command? name).isSome then .markedCommand name
  else
    .unknownCommand .program name
      (Text.suggestions name (Topic.commands.map Prod.fst))

/-- Read a command line from the given options of the program on. -/
def readFrom (given : Given) : List String -> Except Refusal Request
  | [] => .ok .overview
  | argument :: following =>
      match given.isMarked, formOf argument with
      | true, _ => .error (refuseCommand true argument)
      | false, .plain =>
          match Topic.program.command? argument with
          | some .help => readHelp .program following
          | some command => readCommand command following
          | none => .error (refuseCommand false argument)
      | false, _ =>
          answerOf (fun given => readFrom given following) (given.give argument following)

/-- Read a command line. -/
def Request.read (arguments : List String) : Except Refusal Request :=
  readFrom (Given.start .program) arguments

end CommandLine
end ErrorTemplates
