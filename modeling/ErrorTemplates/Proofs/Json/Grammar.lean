import ErrorTemplates.Json.Reader
import Mathlib.Data.List.Basic

/-!
# The grammar of JSON

Which texts stand for which data. A text is related to what it begins with and to the text
that is left after it. Between tokens there may be characters that count as blank; a text
without blanks between its tokens is one that is derived with no such characters.
-/

namespace ErrorTemplates
namespace Json

/-- A letter of a string: a character, or half of one that is written as a code. -/
inductive Letter
  | character (value : Char)
  | surrogate (unit : Nat)
  deriving DecidableEq

/-- What a text stands for. Members stand in the order of the text, and a number is known as it
is written. -/
inductive Datum
  | null
  | boolean (value : Bool)
  | number (written : List Char)
  | string (letters : List Letter)
  | array (elements : List Datum)
  | object (members : List (List Letter × Datum))

/-- No object in a datum has two members with the same name. -/
inductive Datum.Distinct : Datum -> Prop
  | null : Distinct .null
  | boolean (value : Bool) : Distinct (.boolean value)
  | number (written : List Char) : Distinct (.number written)
  | string (letters : List Letter) : Distinct (.string letters)
  | array
      {elements : List Datum}
      (each : ∀ element ∈ elements, Distinct element) :
      Distinct (.array elements)
  | object
      {members : List (List Letter × Datum)}
      (names : (members.map Prod.fst).Nodup)
      (each : ∀ member ∈ members, Distinct member.2) :
      Distinct (.object members)

/-- The letters of a text without lone surrogates. -/
def letters (text : String) : List Letter := text.toList.map .character

theorem letters_injective : Function.Injective letters := by
  intro first second same
  have injective : Function.Injective Letter.character := fun _ _ => Letter.character.inj
  exact String.toList_injective (List.map_injective_iff.mpr injective same)

/-! ## Strings -/

/-- The value of four hexadecimal digits. -/
def codeUnit? : List Char -> Option Nat
  | [one, two, three, four] => do
      let one ← hexValue? one
      let two ← hexValue? two
      let three ← hexValue? three
      let four ← hexValue? four
      return ((one * 16 + two) * 16 + three) * 16 + four
  | _ => none

/-- The unit is the first half of a character. -/
def isHigh (unit : Nat) : Prop := 0xd800 ≤ unit ∧ unit ≤ 0xdbff

/-- The unit is the second half of a character. -/
def isLow (unit : Nat) : Prop := 0xdc00 ≤ unit ∧ unit ≤ 0xdfff

/-- The text begins with the code of the second half of a character. -/
def BeginsLow (text : List Char) : Prop :=
  ∃ digits unit rest, text = '\\' :: 'u' :: (digits ++ rest) ∧ codeUnit? digits = some unit ∧
    isLow unit

/-- The rest of a string after its opening quote has these letters. -/
inductive Letters : List Char -> List Letter -> List Char -> Prop
  /-- A quote ends the string. -/
  | quote (rest : List Char) : Letters ('"' :: rest) [] rest
  /-- Most characters stand for themselves. -/
  | plain
      {value : Char} {text rest : List Char} {others : List Letter}
      (notControl : 0x20 ≤ value.toNat)
      (notQuote : value ≠ '"')
      (notBackslash : value ≠ '\\')
      (next : Letters text others rest) :
      Letters (value :: text) (.character value :: others) rest
  /-- Some characters are written as a letter. -/
  | short
      {letter value : Char} {text rest : List Char} {others : List Letter}
      (stands : escaped? letter = some value)
      (next : Letters text others rest) :
      Letters ('\\' :: letter :: text) (.character value :: others) rest
  /-- A character is written as its code. -/
  | code
      {digits text rest : List Char} {unit : Nat} {others : List Letter}
      (isUnit : codeUnit? digits = some unit)
      (notHigh : ¬ isHigh unit)
      (notLow : ¬ isLow unit)
      (next : Letters text others rest) :
      Letters ('\\' :: 'u' :: (digits ++ text)) (.character (Char.ofNat unit) :: others) rest
  /-- A character is written as the codes of its halves. -/
  | pair
      {first second text rest : List Char} {high low : Nat} {others : List Letter}
      (firstUnit : codeUnit? first = some high)
      (secondUnit : codeUnit? second = some low)
      (highFirst : isHigh high)
      (lowSecond : isLow low)
      (next : Letters text others rest) :
      Letters ('\\' :: 'u' :: (first ++ '\\' :: 'u' :: (second ++ text)))
        (.character (Char.ofNat ((high - 0xd800) * 0x400 + (low - 0xdc00) + 0x10000)) :: others)
        rest
  /-- The code of a half stands alone unless it makes a character with the next code. -/
  | lone
      {digits text rest : List Char} {unit : Nat} {others : List Letter}
      (isUnit : codeUnit? digits = some unit)
      (isHalf : isHigh unit ∨ isLow unit)
      (notPaired : isHigh unit -> ¬ BeginsLow text)
      (next : Letters text others rest) :
      Letters ('\\' :: 'u' :: (digits ++ text)) (.surrogate unit :: others) rest

/-! ## Numbers -/

/-- There are digits and nothing else. -/
def IsDigits (written : List Char) : Prop :=
  written ≠ [] ∧ ∀ character ∈ written, character.isDigit = true

/-- A whole number is written without a zero before other digits. -/
def IsWhole (written : List Char) : Prop :=
  IsDigits written ∧ (written.head? = some '0' -> written = ['0'])

/-- The digits after a point, or nothing. -/
def IsFraction (written : List Char) : Prop :=
  written = [] ∨ ∃ digits, written = '.' :: digits ∧ IsDigits digits

/-- The digits of an exponent with its mark and its sign, or nothing. -/
def IsExponent (written : List Char) : Prop :=
  written = [] ∨
    ∃ mark sign digits, written = mark :: (sign ++ digits) ∧ (mark = 'e' ∨ mark = 'E') ∧
      (sign = [] ∨ sign = ['+'] ∨ sign = ['-']) ∧ IsDigits digits

/-- The characters make up a number. -/
def IsNumber (written : List Char) : Prop :=
  ∃ sign whole fraction exponent, written = sign ++ whole ++ fraction ++ exponent ∧
    (sign = [] ∨ sign = ['-']) ∧ IsWhole whole ∧ IsFraction fraction ∧ IsExponent exponent

/-- A number begins with a minus sign or a digit. -/
theorem IsNumber.head
    {written : List Char}
    (isNumber : IsNumber written) :
    ∃ first others, written = first :: others ∧ (first = '-' ∨ first.isDigit = true) := by
  obtain ⟨sign, whole, fraction, exponent, rfl, isSign, ⟨⟨someDigit, digits⟩, _⟩, _⟩ := isNumber
  obtain ⟨digit, others, rfl⟩ := List.exists_cons_of_ne_nil someDigit
  rcases isSign with rfl | rfl
  · exact ⟨digit, _, rfl, .inr (digits digit List.mem_cons_self)⟩
  · exact ⟨'-', _, rfl, .inl rfl⟩

/-! ## Values -/

section
variable (blank : Char -> Bool)

/-- There are blanks before the text that is left, or none. -/
inductive Gap : List Char -> List Char -> Prop
  | none (rest : List Char) : Gap rest rest
  | more
      {character : Char} {text rest : List Char}
      (isBlank : blank character = true)
      (next : Gap text rest) :
      Gap (character :: text) rest

mutual

/-- The text begins with a value. -/
inductive Reads : List Char -> Datum -> List Char -> Prop
  | null (rest : List Char) : Reads ("null".toList ++ rest) .null rest
  | yes (rest : List Char) : Reads ("true".toList ++ rest) (.boolean true) rest
  | no (rest : List Char) : Reads ("false".toList ++ rest) (.boolean false) rest
  | number
      {written : List Char}
      (isNumber : IsNumber written)
      (rest : List Char) :
      Reads (written ++ rest) (.number written) rest
  | string
      {text rest : List Char} {value : List Letter}
      (isString : Letters text value rest) :
      Reads ('"' :: text) (.string value) rest
  | emptyArray
      {text rest : List Char}
      (gap : Gap blank text (']' :: rest)) :
      Reads ('[' :: text) (.array []) rest
  | array
      {text first rest : List Char} {elements : List Datum}
      (gap : Gap blank text first)
      (isElements : Elements first elements rest) :
      Reads ('[' :: text) (.array elements) rest
  | emptyObject
      {text rest : List Char}
      (gap : Gap blank text ('\x7d' :: rest)) :
      Reads ('\x7b' :: text) (.object []) rest
  | object
      {text first rest : List Char} {members : List (List Letter × Datum)}
      (gap : Gap blank text first)
      (isMembers : Members first members rest) :
      Reads ('\x7b' :: text) (.object members) rest

/-- The text begins with the last elements of an array and its closing bracket. -/
inductive Elements : List Char -> List Datum -> List Char -> Prop
  | last
      {text after rest : List Char} {element : Datum}
      (reads : Reads text element after)
      (gap : Gap blank after (']' :: rest)) :
      Elements text [element] rest
  | more
      {text after separated next rest : List Char} {element : Datum} {others : List Datum}
      (reads : Reads text element after)
      (beforeComma : Gap blank after (',' :: separated))
      (afterComma : Gap blank separated next)
      (readsOthers : Elements next others rest) :
      Elements text (element :: others) rest

/-- The text begins with a member of an object. -/
inductive Member : List Char -> List Letter × Datum -> List Char -> Prop
  | named
      {text afterName afterColon written rest : List Char}
      {name : List Letter} {value : Datum}
      (isName : Letters text name afterName)
      (beforeColon : Gap blank afterName (':' :: afterColon))
      (colonGap : Gap blank afterColon written)
      (reads : Reads written value rest) :
      Member ('"' :: text) (name, value) rest

/-- The text begins with the last members of an object and its closing brace. -/
inductive Members : List Char -> List (List Letter × Datum) -> List Char -> Prop
  | last
      {text after rest : List Char} {member : List Letter × Datum}
      (isMember : Member text member after)
      (gap : Gap blank after ('\x7d' :: rest)) :
      Members text [member] rest
  | more
      {text after separated next rest : List Char}
      {member : List Letter × Datum} {others : List (List Letter × Datum)}
      (isMember : Member text member after)
      (beforeComma : Gap blank after (',' :: separated))
      (afterComma : Gap blank separated next)
      (readsOthers : Members next others rest) :
      Members text (member :: others) rest

end

/-- The whole text stands for a datum. -/
def Document (text : List Char) (datum : Datum) : Prop :=
  ∃ first last, Gap blank text first ∧ Reads blank first datum last ∧ Gap blank last []

end

/-- No characters are blank. -/
def noBlank : Char -> Bool := fun _ => false

end Json
end ErrorTemplates
