import ErrorTemplates.Program.Print
import ErrorTemplates.Program.Source

/-!
# Languages

What a command needs of the language of its programs: a reader of their texts and a printer.
-/

namespace ErrorTemplates
namespace Program

/-- How the texts of programs are read and written. -/
class Language where
  /-- Read the text of a program, or find out where it cannot be read. -/
  parse : Source -> Origin -> Except Unreadable Parsed
  /-- The text of a program with its comments. -/
  print : Program -> Comments -> String

/-- The reader and the printer of this library. -/
instance : Language where
  parse := Source.parse
  print program comments := (program.print comments).1

theorem Language.parse_eq (source : Source) (origin : Origin) :
    Language.parse source origin = source.parse origin := rfl

end Program
end ErrorTemplates
