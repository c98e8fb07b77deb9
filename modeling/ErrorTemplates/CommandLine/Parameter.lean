/-!
# Commands and their parameters

The commands of the program with their usage and help, and the parameters that they take.
-/

namespace ErrorTemplates
namespace CommandLine

/-- What can be asked for help about: the program as a whole, or one of its commands. -/
inductive Topic
  | program
  | extract
  | init
  | help
  deriving DecidableEq

/-- The parameters of all commands. -/
inductive Parameter
  | input
  | output
  | messages
  | replacement
  | factory
  | suffix
  | verbose
  | help
  | version
  deriving DecidableEq

namespace Parameter

/-- The parameter as it is shown. -/
def display : Parameter -> String
  | .input => "<INPUT>"
  | .output => "--output <OUTPUT>"
  | .messages => "--messages <MESSAGES>"
  | .replacement => "--replacement <REPLACEMENT>"
  | .factory => "--factory <FACTORY_NAME>"
  | .suffix => "--suffix <SUFFIX>"
  | .verbose => "--verbose"
  | .help => "--help"
  | .version => "--version"

/-- The name after two hyphens. -/
def long? : Parameter -> Option String
  | .input => none
  | .output => some "output"
  | .messages => some "messages"
  | .replacement => some "replacement"
  | .factory => some "factory"
  | .suffix => some "suffix"
  | .verbose => some "verbose"
  | .help => some "help"
  | .version => some "version"

/-- The letter after one hyphen. -/
def short? : Parameter -> Option Char
  | .output => some 'o'
  | .verbose => some 'v'
  | .help => some 'h'
  | .version => some 'V'
  | _ => none

/-- The parameter has a value. -/
def takesValue : Parameter -> Bool
  | .verbose => false
  | .help => false
  | .version => false
  | _ => true

/-- The value of the parameter is a path, which is never empty. -/
def isPath : Parameter -> Bool
  | .input => true
  | .output => true
  | .messages => true
  | .replacement => true
  | _ => false

end Parameter

namespace Topic

/-- The options of a command. -/
def options : Topic -> List Parameter
  | .program => [.help, .version]
  | .extract => [.output, .messages, .replacement, .factory, .suffix, .verbose, .help]
  | .init => [.help]
  | .help => []

/-- The option of a command with a name. -/
def ofLong? (topic : Topic) (name : String) : Option Parameter :=
  topic.options.find? fun parameter => parameter.long? = some name

/-- The option of a command with a letter. -/
def ofShort? (topic : Topic) (letter : Char) : Option Parameter :=
  topic.options.find? fun parameter => parameter.short? = some letter

/-- The names of the options of a command. -/
def optionNames (topic : Topic) : List String := topic.options.filterMap Parameter.long?

/-- The commands of the program by name. -/
def commands : List (String × Topic) :=
  [("extract", .extract), ("init", .init), ("help", .help)]

/-- The command with a name, which only the program as a whole has. -/
def command? (topic : Topic) (name : String) : Option Topic :=
  match topic with
  | .program => commands.lookup name
  | _ => none

/-- The words that call a command. -/
def call : Topic -> String
  | .program => "minerr"
  | .extract => "minerr extract"
  | .init => "minerr init"
  | .help => "minerr help"

/-- The words that call a command, with the parameters that it may have. -/
def usage : Topic -> String
  | .program => "minerr [COMMAND]"
  | .extract => "minerr extract [OPTIONS] <INPUT>"
  | .init => "minerr init"
  | .help => "minerr help [COMMAND]..."

/-- The words that call a command, with the parameters that are used and those that must
not be absent. -/
def usageWith (topic : Topic) (used : List Parameter) : String :=
  if used.isEmpty then topic.usage
  else
    let needed := if topic = .extract then [Parameter.input] else []
    let options := used.filter fun parameter => parameter != .input
    String.intercalate " " (topic.call :: (options ++ needed).map Parameter.display)

/-- What a command does. -/
def purpose : Topic -> String
  | .program =>
      "Extracts minErr error templates from JavaScript and strips them from call sites"
  | .extract =>
      "Extract minErr message templates into a JSON table and strip them from the source"
  | .init => "Initialize a new .minerrrc.json configuration file"
  | .help => "Print this message or the help of the given subcommand(s)"

/-- What is told about the parameters of a command. -/
def details : Topic -> List String
  | .program =>
      ["Commands:",
        "  extract  " ++ purpose .extract,
        "  init     " ++ purpose .init,
        "  help     " ++ purpose .help,
        "",
        "Options:",
        "  -h, --help     Print help",
        "  -V, --version  Print version"]
  | .extract =>
      ["Arguments:",
        "  <INPUT>  JavaScript file to process",
        "",
        "Options:",
        "  -o, --output <OUTPUT>            " ++
          "Where to write the rewritten program (default: stdout)",
        "      --messages <MESSAGES>        " ++
          "Where to write the extracted JSON table (overrides config file)",
        "      --replacement <REPLACEMENT>  " ++
          "File holding the production minErr definition (overrides config file)",
        "      --factory <FACTORY_NAME>     " ++
          "Factory identifier (overrides config file)",
        "      --suffix <SUFFIX>            " ++
          "Direct-form suffix (overrides config file)",
        "  -v, --verbose                    Enable verbose output",
        "  -h, --help                       Print help"]
  | .init => ["Options:", "  -h, --help  Print help"]
  | .help => ["Arguments:", "  [COMMAND]...  Print help for the subcommand(s)"]

/-- The help about a command. -/
def helpText (topic : Topic) : String :=
  let lines := [topic.purpose, "", "Usage: " ++ topic.usage, ""] ++ topic.details
  String.join (lines.map fun line => line ++ "\n")

end Topic

/-- The name and the version of the program. -/
def versionText : String := "minerr 0.1.0\n"

end CommandLine
end ErrorTemplates
