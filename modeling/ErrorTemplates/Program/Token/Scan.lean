import ErrorTemplates.Program.Token.Gap
import ErrorTemplates.Program.Token.Literal

/-!
# Finding the next token

The token with which a text begins. Of the marks that begin a text, the longest is the
token. A slash is always a mark here, and so is the sign with which a template begins.
-/

namespace ErrorTemplates
namespace Program

/-- A token and the text that it takes. -/
structure Scanned where
  /-- The token. -/
  token : Token
  /-- The text of the token. -/
  text : List Char

namespace Scanned

/-- All marks, the longer ones first. -/
def marks : List String := [
  ">>>=",
  "...", "===", "!==", ">>>", "<<=", ">>=", "**=", "&&=", "||=", "??=",
  "=>", "==", "!=", "<=", ">=", "++", "--", "<<", ">>", "**", "&&", "||", "??", "?.",
  "+=", "-=", "*=", "/=", "%=", "&=", "|=", "^=",
  "\x7b", "\x7d", "(", ")", "[", "]", ";", ",", "<", ">", "=", "+", "-", "*", "/", "%",
  "&", "|", "^", "!", "~", "?", ":", ".", "@", "`"]

/-- The mark begins the text. A question mark before a fraction is a mark of its own. -/
def markFits (text : List Char) (mark : String) : Bool :=
  mark.toList.isPrefixOf text &&
    !(mark == "?." && (text.drop 2).head?.any (Literal.isDigit 10))

/-- The longest mark that begins a text. -/
def markAt? (text : List Char) : Option String :=
  marks.find? (markFits text)

/-- A word that begins a text, at a position. -/
def word (position : Nat) (text : List Char) : Scanned :=
  let raw := Literal.wordText text
  if raw.contains '\\' then
    match Escape.value raw with
    | .ok (some name) => { token := .word name true, text := raw }
    | .ok none => { token := .fault { cause := .badEscape 4, position }, text := raw }
    | .error fault =>
        { token := .fault
            { cause := fault.cause, position := position + bytes raw - bytes fault.rest }
          text := raw }
  else { token := .word (String.ofList raw) false, text := raw }

/-- A string whose text follows a quote, the quote being at a position. A string that is
not closed ends with its line. -/
def string (position : Nat) (quote : Char) (following : List Char) : Scanned :=
  let content := Literal.stringText quote following
  let closing := if (following.drop content.length).head? == some quote then [quote] else []
  let raw := quote :: (content ++ closing)
  match Escape.value content with
  | .ok value => { token := .string (String.ofList raw) value, text := raw }
  | .error fault =>
      { token := .fault
          { cause := fault.cause
            position := position + 1 + bytes content - bytes fault.rest }
        text := raw }

/-- A number that begins a text, at a position. -/
def number (position : Nat) (text : List Char) : Scanned :=
  match Literal.number text with
  | .ok found =>
      let raw := String.ofList found.text
      { token := if found.isBig then .bigInteger raw else .number raw
        text := found.text }
  | .error fault =>
      let taken := text.take fault.offset
      { token := .fault { cause := fault.cause, position := position + bytes taken }
        text := taken }

/-- The token that begins a text, at a position. -/
def next (position : Nat) : List Char -> Scanned
  | [] => { token := .ending, text := [] }
  | first :: rest =>
      if first == '\'' || first == '"' then string position first rest
      else if Literal.isDigit 10 first ||
          (first == '.' && rest.head?.any (Literal.isDigit 10)) then
        number position (first :: rest)
      else if beginsWord first || first == '\\' then word position (first :: rest)
      else if first == '#' && rest.head?.any (fun c => beginsWord c || c == '\\') then
        match word (position + 1) rest with
        | { token := .word name _, text } => { token := .privateName name, text := '#' :: text }
        | { token, text } => { token, text := '#' :: text }
      else
        match markAt? (first :: rest) with
        | some mark => { token := .mark mark, text := mark.toList }
        | none =>
            { token := .fault { cause := .strayCharacter first, position }
              text := [first] }

end Scanned

end Program
end ErrorTemplates
