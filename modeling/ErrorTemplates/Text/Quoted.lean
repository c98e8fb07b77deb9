import ErrorTemplates.Text.DisplayWidth

/-!
# Quoted text

A text between quotes, so that its extent and every character of it can be seen. Quotes
and backslashes are escaped, and a character without a visible form is written by its code.
-/

namespace ErrorTemplates
namespace Text

/-- The code points of separators and of private use, other than the blank. -/
def separatorRanges : List CodeRange := [
  (0xa0, 0xa0), (0x1680, 0x1680), (0x2000, 0x200a), (0x2028, 0x2029), (0x202f, 0x202f),
  (0x205f, 0x205f), (0x3000, 0x3000), (0xe000, 0xf8ff), (0xf0000, 0x10ffff)]

/-- The code points of vowels and final consonants that join a syllable before them. -/
def joiningRanges : List CodeRange := [(0x1160, 0x11ff), (0xd7b0, 0xd7fb)]

/-- A character has no visible form of its own. -/
def isHidden (character : Char) : Bool :=
  character.toNat < 0x20 || (0x7f ≤ character.toNat && character.toNat < 0xa0) ||
    CodeRange.covers separatorRanges character ||
    (isCombining character && !CodeRange.covers joiningRanges character)

/-- A character between quotes. -/
def quotedCharacter (character : Char) : String :=
  match character with
  | '"' => "\\\""
  | '\\' => "\\\\"
  | '\n' => "\\n"
  | '\r' => "\\r"
  | '\t' => "\\t"
  | '\x00' => "\\0"
  | other =>
      if isHidden other then
        "\\u\x7b" ++ String.ofList (Nat.toDigits 16 other.toNat) ++ "\x7d"
      else String.singleton other

/-- A text between quotes. -/
def quoted (text : List Char) : String :=
  "\"" ++ String.join (text.map quotedCharacter) ++ "\""

end Text
end ErrorTemplates
