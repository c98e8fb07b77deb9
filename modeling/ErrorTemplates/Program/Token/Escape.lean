import ErrorTemplates.Program.SyntaxError

/-!
# Values of strings

The value that a string or a part of a template stands for. Escape sequences are decoded
into code units, a pair of surrogates is joined into one character wherever its halves
come from, and a surrogate that stays alone leaves the string without a value.
-/

namespace ErrorTemplates
namespace Program
namespace Escape

/-- The value of a hexadecimal digit. -/
def hexDigit? (character : Char) : Option Nat :=
  if '0' ≤ character && character ≤ '9' then some (character.toNat - '0'.toNat)
  else if 'a' ≤ character && character ≤ 'f' then some (character.toNat - 'a'.toNat + 10)
  else if 'A' ≤ character && character ≤ 'F' then some (character.toNat - 'A'.toNat + 10)
  else none

/-- The number that hexadecimal digits stand for. -/
def hexNumber? (digits : List Char) : Option Nat :=
  digits.foldlM (fun value digit => (16 * value + ·) <$> hexDigit? digit) 0

/-- The value of an octal digit. -/
def octalDigit? (character : Char) : Option Nat :=
  if '0' ≤ character && character ≤ '7' then some (character.toNat - '0'.toNat) else none

/-- The first half of a surrogate pair. -/
def isHighSurrogate (unit : Nat) : Bool := 0xd800 ≤ unit && unit ≤ 0xdbff

/-- The second half of a surrogate pair. -/
def isLowSurrogate (unit : Nat) : Bool := 0xdc00 ≤ unit && unit ≤ 0xdfff

/-- The code point of a surrogate pair. -/
def pairValue (high low : Nat) : Nat := 0x10000 + (high - 0xd800) * 0x400 + (low - 0xdc00)

/-- What an escape sequence stands for, and the characters it takes after its
backslash. -/
structure Decoded where
  /-- The code units. -/
  units : List Nat
  /-- The number of characters. -/
  length : Nat

/-- Four hexadecimal digits begin the text. -/
def fourDigits? : List Char -> Option Nat
  | one :: two :: three :: four :: _ => hexNumber? [one, two, three, four]
  | _ => none

/-- A text begins an escape sequence that should be the second half of a pair and has not
four digits. -/
def breaksPair : List Char -> Bool
  | '\\' :: 'u' :: rest => (fourDigits? rest).isNone
  | _ => false

/-- The code point between braces, given the text after the opening one. -/
def braced (text : List Char) : Except SyntaxCause Decoded :=
  let digits := text.takeWhile fun c => c != '\x7d'
  let closed := digits.length < text.length
  match hexNumber? digits with
  | some value =>
      if closed && !digits.isEmpty && value ≤ 0x10ffff then
        .ok { units := [value], length := digits.length + 3 }
      else .error .badCodePoint
  | none => .error .badCodePoint

/-- Up to three octal digits whose value is at most 255. -/
def octal (first : Nat) (text : List Char) : Decoded :=
  match text.head? >>= octalDigit? with
  | none => { units := [first], length := 1 }
  | some second =>
      match text.tail.head? >>= octalDigit? with
      | none => { units := [8 * first + second], length := 2 }
      | some third =>
          if 64 * first + 8 * second + third ≤ 255 then
            { units := [64 * first + 8 * second + third], length := 3 }
          else { units := [8 * first + second], length := 2 }

/-- The characters that letters after a backslash stand for. -/
def letterValue : Char -> Char
  | 'n' => '\n'
  | 'r' => '\r'
  | 't' => '\t'
  | 'b' => '\x08'
  | 'v' => '\x0b'
  | 'f' => '\x0c'
  | other => other

/-- Decode the text after a backslash. -/
def decode : List Char -> Except SyntaxCause Decoded
  | [] => .ok { units := [], length := 0 }
  | '\r' :: '\n' :: _ => .ok { units := [], length := 2 }
  | 'x' :: rest =>
      match rest with
      | one :: two :: _ =>
          match hexNumber? [one, two] with
          | some value => .ok { units := [value], length := 3 }
          | none => .error (.badEscape 2)
      | _ => .error (.badEscape 2)
  | 'u' :: '\x7b' :: rest => braced rest
  | 'u' :: rest =>
      match fourDigits? rest with
      | some value =>
          if isHighSurrogate value && breaksPair (rest.drop 4) then
            .error (.badEscape 4)
          else .ok { units := [value], length := 5 }
      | none => .error (.badEscape 4)
  | character :: rest =>
      if character = '\n' || character = '\r' || character = '\u2028' ||
          character = '\u2029' then
        .ok { units := [], length := 1 }
      else
        match octalDigit? character with
        | some digit => .ok (octal digit rest)
        | none => .ok { units := [(letterValue character).toNat], length := 1 }

/-- A faulty escape sequence and the text from its backslash on. -/
structure Fault where
  /-- The reason. -/
  cause : SyntaxCause
  /-- The text from the backslash on. -/
  rest : List Char

/-- The code units that a text stands for, without its first characters. -/
def units : (skipped : Nat) -> List Char -> Except Fault (List Nat)
  | _, [] => .ok []
  | skipped + 1, _ :: rest => units skipped rest
  | 0, '\\' :: rest =>
      match decode rest with
      | .ok decoded => (decoded.units ++ ·) <$> units decoded.length rest
      | .error cause => .error { cause, rest := '\\' :: rest }
  | 0, character :: rest => (character.toNat :: ·) <$> units 0 rest

/-- The text of code units, unless one of them is half of a pair and stays alone. -/
def joined : List Nat -> Option (List Char)
  | [] => some []
  | [unit] =>
      if isHighSurrogate unit || isLowSurrogate unit then none else some [Char.ofNat unit]
  | high :: low :: rest =>
      if isHighSurrogate high && isLowSurrogate low then
        (Char.ofNat (pairValue high low) :: ·) <$> joined rest
      else if isHighSurrogate high || isLowSurrogate high then none
      else (Char.ofNat high :: ·) <$> joined (low :: rest)

/-- The value of a text with escape sequences, if it has one. -/
def value (text : List Char) : Except Fault (Option String) :=
  (fun units => String.ofList <$> joined units) <$> units 0 text

end Escape
end Program
end ErrorTemplates
