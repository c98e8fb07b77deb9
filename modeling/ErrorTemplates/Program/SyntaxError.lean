/-!
# Syntax errors

What can be wrong with the text of a program, and the words in which it is told. Reading
ends at the first error.
-/

namespace ErrorTemplates
namespace Program

/-- The reason why a text is not a program. A token that was found in place of another
is given by its description. -/
inductive SyntaxCause
  /-- No expression begins here. -/
  | expressionExpected
  /-- A certain mark or word is missing. -/
  | expected (wanted found : String)
  /-- An expression statement does not end here. -/
  | endExpected
  /-- No member of an object, a class or an object pattern begins here. -/
  | memberExpected (found : String)
  /-- No member of a class ends or goes on here. -/
  | memberUnexpected (found : String)
  /-- A property name is followed by something that cannot follow it. -/
  | propertyExpected (found : String)
  /-- Nothing that can be bound begins here. -/
  | bindingExpected (found : String)
  /-- A token stands where it has no meaning. -/
  | unexpected (found : String)
  /-- A name is missing. -/
  | nameExpected
  /-- An arrow function stands where none can stand. -/
  | arrowForbidden
  /-- A power has a unary expression without parentheses as its base. -/
  | unaryBase
  /-- What is constructed has an optional link. -/
  | optionalConstructed
  /-- Parentheses hold nothing and no arrow follows. -/
  | emptyParentheses
  /-- An expression in parentheses is spread. -/
  | spreadInParentheses
  /-- The value of a throw statement begins on another line. -/
  | lineBreakAfterThrow
  /-- A template does not end. -/
  | unterminatedTemplate
  /-- A regular expression does not end on its line. -/
  | unterminatedPattern
  /-- A pattern is declared without a value. -/
  | valueExpected
  /-- The left side of an assignment cannot be assigned to. -/
  | invalidTarget
  /-- An expression stands where a pattern has to stand. -/
  | patternExpected
  /-- A word follows a number directly. -/
  | wordAfterNumber
  /-- A number in the given radix has no digits. -/
  | digitExpected (radix : Nat)
  /-- An exponent has no digits. -/
  | exponentExpected
  /-- An escape sequence has too few hexadecimal digits. -/
  | badEscape (digits : Nat)
  /-- An escape sequence in braces names no code point. -/
  | badCodePoint
  /-- A character belongs to no token. -/
  | strayCharacter (character : Char)
  /-- The text is nested more deeply than its length allows. -/
  | nesting
  deriving DecidableEq

/-- A reason and the byte position to which it applies. -/
structure SyntaxError where
  /-- The reason. -/
  cause : SyntaxCause
  /-- The position. -/
  position : Nat
  deriving DecidableEq

namespace SyntaxCause

/-- The digits of a radix in words. -/
def digitKind : (radix : Nat) -> String
  | 2 => "a binary digit"
  | 8 => "an octal digit"
  | 16 => "a hexadecimal digit"
  | _ => "a decimal digit"

/-- The reason in words. -/
def message : SyntaxCause -> String
  | .expressionExpected => "Expression expected"
  | .expected wanted found => "Expected '" ++ wanted ++ "', got '" ++ found ++ "'"
  | .endExpected => "Expected ';', '\x7d' or <eof>"
  | .memberExpected found =>
      "Unexpected token `" ++ found ++ "`. Expected identifier, string literal, " ++
        "numeric literal or [ for the computed key"
  | .memberUnexpected found =>
      "Unexpected token `" ++ found ++
        "`. Expected * for generator, private key, identifier or async"
  | .propertyExpected found =>
      "Unexpected token `" ++ found ++
        "`. Expected ... , *,  (, [, :, , ?, = or an identifier"
  | .bindingExpected found =>
      "Unexpected token `" ++ found ++ "`. Expected yield, an identifier, [ or \x7b"
  | .unexpected found => "Unexpected token `" ++ found ++ "`. Expected identifier"
  | .nameExpected => "Expected ident"
  | .arrowForbidden => "An arrow function is not allowed here"
  | .unaryBase => "** cannot be applied to unary expression"
  | .optionalConstructed => "Constructor in/after an Optional Chaining is not allowed."
  | .emptyParentheses => "Parenthesized expression cannot be empty"
  | .spreadInParentheses => "Parenthesized expression cannot contain spread operator"
  | .lineBreakAfterThrow => "LineBreak cannot follow 'throw'"
  | .unterminatedTemplate => "Unterminated template"
  | .unterminatedPattern => "Unterminated regexp literal"
  | .valueExpected => "Destructuring bindings require initializers"
  | .invalidTarget => "Invalid assignment target"
  | .patternExpected => "Not a pattern"
  | .wordAfterNumber => "Identifier cannot follow number"
  | .digitExpected radix => "Expected " ++ digitKind radix
  | .exponentExpected => "Expected +, - or decimal digit after e"
  | .badEscape digits =>
      "Bad character escape sequence, expected " ++ toString digits ++ " hex characters"
  | .badCodePoint =>
      "Bad character escape sequence, expected 1-6 hex characters in the range " ++
        "0 to 10FFFF."
  | .strayCharacter character =>
      "Unexpected character '" ++ String.singleton character ++ "'"
  | .nesting => "Nesting limit exceeded"

end SyntaxCause

end Program
end ErrorTemplates
