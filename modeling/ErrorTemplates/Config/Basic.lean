import ErrorTemplates.Json.Value
import ErrorTemplates.Text.Identifier

/-!
# Configurations

A configuration names the factory and the suffix by which calls are recognised, the file
that has the replacement for the definition of the factory, and the file to which the
templates are written.
-/

namespace ErrorTemplates

/-- A configuration. -/
structure Config where
  /-- The name of the factory. -/
  factory : String
  /-- The end of the names of functions that make errors. -/
  suffix : String
  /-- The path of the replacement for the definition of the factory. -/
  replacement : Option String
  /-- The path of the file for the templates. -/
  messages : String
  deriving DecidableEq

namespace Config

/-- The configuration that holds when nothing is configured. -/
def default : Config :=
  { factory := "minErr"
    suffix := "MinErr"
    replacement := none
    messages := "errors.json" }

/-- What is wrong with a configuration. -/
inductive Invalid
  | factory (name : String)
  | suffix (name : String)
  | messages
  deriving DecidableEq

/-- What is wrong, in words. -/
def Invalid.message : Invalid -> String
  | .factory name => "Invalid identifier in 'factoryName': \"" ++ name ++ "\""
  | .suffix name => "Invalid identifier in 'suffix': \"" ++ name ++ "\""
  | .messages => "'messagesOutput' must not be empty"

/-- A text can end an identifier. It may begin with a digit. -/
def endsIdentifier (text : String) : Bool :=
  !text.isEmpty && Text.isIdentifier ("_" ++ text)

/-- The first thing that is wrong with a configuration. -/
def invalid? (config : Config) : Option Invalid :=
  if !Text.isIdentifier config.factory then some (.factory config.factory)
  else if !endsIdentifier config.suffix then some (.suffix config.suffix)
  else if config.messages.isEmpty then some .messages
  else none

/-- Accept a configuration, or say what is wrong with it. -/
def validate (config : Config) : Except Invalid Unit :=
  match config.invalid? with
  | some invalid => .error invalid
  | none => .ok ()

/-- The members of a configuration. A replacement that is absent is left out. -/
def members (config : Config) : List (String × Json.Value) :=
  [("factoryName", .string config.factory), ("suffix", .string config.suffix)] ++
    (config.replacement.map fun path => ("replacement", Json.Value.string path)).toList ++
    [("messagesOutput", .string config.messages)]

/-- A configuration as a value. -/
def toJson (config : Config) : Json.Value := .object config.members

/-- The text of a new configuration file. -/
def defaultText : String := default.toJson.pretty

end Config

end ErrorTemplates
