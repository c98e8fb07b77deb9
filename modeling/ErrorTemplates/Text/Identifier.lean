import ErrorTemplates.Text.Alphabetic
import ErrorTemplates.Text.Numeric

/-!
# Identifier names

An identifier name begins with a dollar sign, an underscore or an alphabetic
character, and goes on with those and with numeric characters. Reserved words are
identifier names like any other.
-/

namespace ErrorTemplates
namespace Text

/-- A character with which an identifier name may begin. -/
def startsIdentifier (character : Char) : Bool :=
  character == '$' || character == '_' || isAlphabetic character

/-- A character that may stand anywhere after the first. -/
def continuesIdentifier (character : Char) : Bool :=
  startsIdentifier character || isNumeric character

/-- The text is a whole identifier name. -/
def isIdentifier (text : String) : Bool :=
  match text.toList with
  | [] => false
  | first :: rest => startsIdentifier first && rest.all continuesIdentifier

end Text
end ErrorTemplates
