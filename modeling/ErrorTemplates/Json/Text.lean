/-!
# Strings in JSON

A string is written between quotes. The quote, the backslash and the control characters
below U+0020 are escaped, five of the latter by a letter and the others by their code; all
other characters stand for themselves.
-/

namespace ErrorTemplates
namespace Json

/-- A hexadecimal digit in lower case. -/
def hexDigit (value : Nat) : Char :=
  Char.ofNat (if value < 10 then '0'.toNat + value else 'a'.toNat + (value - 10))

/-- The letter that a character is escaped by. -/
def escapeLetter? : Char -> Option Char
  | '"' => some '"'
  | '\\' => some '\\'
  | '\x08' => some 'b'
  | '\x0c' => some 'f'
  | '\n' => some 'n'
  | '\r' => some 'r'
  | '\t' => some 't'
  | _ => none

/-- A character as it is written in a string. -/
def escape (character : Char) : List Char :=
  match escapeLetter? character with
  | some letter => ['\\', letter]
  | none =>
      if character.toNat < 0x20 then
        ['\\', 'u', '0', '0', hexDigit (character.toNat / 16),
          hexDigit (character.toNat % 16)]
      else [character]

/-- A text as it is written in a string. -/
def escapeAll : List Char -> List Char
  | [] => []
  | character :: rest => escape character ++ escapeAll rest

@[simp] theorem escapeAll_nil : escapeAll [] = [] := rfl

@[simp] theorem escapeAll_cons (character : Char) (rest : List Char) :
    escapeAll (character :: rest) = escape character ++ escapeAll rest := rfl

theorem escapeAll_append (one other : List Char) :
    escapeAll (one ++ other) = escapeAll one ++ escapeAll other := by
  induction one with
  | nil => simp
  | cons character rest inductionHypothesis => simp [inductionHypothesis]

/-- A string with its quotes. -/
def quote (text : String) : String :=
  String.ofList ('"' :: (escapeAll text.toList ++ ['"']))

/-- Both characters stand for themselves. -/
def arePlain (one other : Char) : Bool :=
  escape one == [one] && escape other == [other]

/-- The pieces in which a string is written: the quotes, the runs of characters that stand
for themselves, and each escaped character by itself. -/
def quotePieces (text : String) : List String :=
  "\"" ::
    ((text.toList.splitBy arePlain).map fun run => String.ofList (escapeAll run)) ++ ["\""]

end Json
end ErrorTemplates
