import ErrorTemplates.Program.SyntaxError

/-!
# Tokens

The words, marks and literals that a program is made of. A regular expression and the
text parts of a template are no tokens of their own: whether a slash begins a regular
expression depends on what stands before it, so the reader of expressions asks for them.
-/

namespace ErrorTemplates
namespace Program

/-- A token. -/
inductive Token
  /-- A word, and whether it is written with an escape sequence. -/
  | word (name : String) (escaped : Bool)
  /-- A word after a number sign. -/
  | privateName (name : String)
  /-- A punctuation mark or an operator. -/
  | mark (text : String)
  /-- A number. -/
  | number (raw : String)
  /-- An integer of any size. -/
  | bigInteger (raw : String)
  /-- A string and its value unless that has a lone surrogate. -/
  | string (raw : String) (value : Option String)
  /-- Something that cannot be read. -/
  | fault (error : SyntaxError)
  /-- The end of the program. -/
  | ending
  deriving DecidableEq

/-- The mark that opens a block. -/
def openBrace : String := "\x7b"

/-- The mark that closes a block. -/
def closeBrace : String := "\x7d"

namespace Token

/-- The words that cannot be names. -/
def reservedWords : List String := [
  "break", "case", "catch", "class", "const", "continue", "debugger", "default",
  "delete", "do", "else", "enum", "export", "extends", "false", "finally", "for",
  "function", "if", "import", "in", "instanceof", "new", "null", "return", "super",
  "switch", "this", "throw", "true", "try", "typeof", "var", "void", "while", "with"]

/-- The words that have a meaning in certain places and are names elsewhere. -/
def contextualWords : List String := [
  "abstract", "accessor", "any", "as", "assert", "asserts", "async", "await", "bigint",
  "boolean", "declare", "from", "get", "global", "implements", "infer", "interface",
  "intrinsic", "is", "keyof", "let", "meta", "namespace", "never", "number", "object",
  "of", "package", "private", "protected", "public", "readonly", "require", "satisfies",
  "set", "static", "string", "symbol", "target", "type", "undefined", "unique",
  "unknown", "using", "yield"]

/-- The token as it is named in a message. -/
def describe : Token -> String
  | .word name escaped =>
      if !escaped && (reservedWords.contains name || contextualWords.contains name) then
        name
      else "ident"
  | .privateName _ => "#"
  | .mark text => text
  | .number _ => "numeric literal"
  | .bigInteger _ => "bigint literal"
  | .string _ _ => "string literal"
  | .fault _ => "<lexing error>"
  | .ending => "<eof>"

/-- The token is the given mark. -/
def isMark (text : String) : Token -> Bool
  | .mark found => found == text
  | _ => false

/-- The token is the given word, written without escape sequences. -/
def isWord (name : String) : Token -> Bool
  | .word found escaped => found == name && !escaped
  | _ => false

/-- The token is a word that cannot be a name. -/
def isReserved : Token -> Bool
  | .word name escaped => reservedWords.contains name && !escaped
  | _ => false

/-- The name that the token is, unless it is a reserved word. -/
def name? : Token -> Option String
  | .word name escaped =>
      if reservedWords.contains name && !escaped then none else some name
  | _ => none

/-- The word that the token is, reserved or not. -/
def word? : Token -> Option String
  | .word name _ => some name
  | _ => none

/-- The marks that stand between two operands. -/
def operatorMarks : List String := [
  "+", "-", "*", "/", "%", "**", "<<", ">>", ">>>", "&", "|", "^", "&&", "||", "??",
  "<", ">", "<=", ">=", "==", "!=", "===", "!=="]

/-- A line comment after the token on the same line belongs to the token. -/
def keepsLineComment (token : Token) : Bool :=
  match token with
  | .mark text => !operatorMarks.contains text
  | .word name escaped => escaped || !(name == "in" || name == "instanceof")
  | _ => true

/-- A block comment after the token on the same line belongs to the token. -/
def keepsBlockComment (token : Token) : Bool :=
  match token with
  | .mark text => [";", openBrace, closeBrace, "`"].contains text
  | .word _ _ => !token.isReserved
  | .number _ | .bigInteger _ | .string _ _ | .privateName _ => true
  | .fault _ | .ending => false

end Token

end Program
end ErrorTemplates
