import ErrorTemplates.Json.Value
import ErrorTemplates.Proofs.Json.Grammar
import Mathlib.Data.List.SplitBy

/-!
# What the compact form stands for

The compact form of a value is a text of the grammar without blanks between its tokens, and it
stands for the value and for nothing else, also where blanks would be allowed.
-/

namespace ErrorTemplates
namespace Json

/-! ## Strings -/

theorem hexValue?_hexDigit : ∀ value < 16, hexValue? (hexDigit value) = some value := by
  decide

/-- The code of a control character has its value. -/
theorem codeUnit?_control
    {value : Char}
    (control : value.toNat < 0x20) :
    codeUnit? ['0', '0', hexDigit (value.toNat / 16), hexDigit (value.toNat % 16)] =
      some value.toNat := by
  have zero : hexValue? '0' = some 0 := by decide
  have third := hexValue?_hexDigit (value.toNat / 16) (by omega)
  have fourth := hexValue?_hexDigit (value.toNat % 16) (by omega)
  simp only [codeUnit?, zero, third, fourth, Option.bind_eq_bind, Option.bind_some,
    Option.pure_def, Option.some.injEq]
  omega

/-- A character that is escaped by a letter is the one that the letter stands for. -/
theorem escaped?_of_escapeLetter?
    {value letter : Char}
    (isLetter : escapeLetter? value = some letter) :
    escaped? letter = some value ∧ letter ≠ 'u' := by
  unfold escapeLetter? at isLetter
  split at isLetter <;> simp_all <;> subst isLetter <;> decide

/-- Only four characters are the digits of a unit. -/
theorem length_of_codeUnit?
    {digits : List Char}
    {unit : Nat}
    (isUnit : codeUnit? digits = some unit) : digits.length = 4 := by
  unfold codeUnit? at isUnit
  split at isUnit
  · rfl
  · simp at isUnit

section
variable {text rest : List Char} {found : List Letter}

theorem letters_quote_iff :
    Letters ('"' :: text) found rest ↔ found = [] ∧ rest = text := by
  constructor
  · intro reads
    cases reads with
    | quote => exact ⟨rfl, rfl⟩
    | plain _ notQuote => exact absurd rfl notQuote
  · rintro ⟨rfl, rfl⟩
    exact .quote rest

/-- A character that is not escaped stands for itself. -/
theorem letters_plain_iff
    {value : Char}
    (notControl : 0x20 ≤ value.toNat)
    (notQuote : value ≠ '"')
    (notBackslash : value ≠ '\\') :
    Letters (value :: text) found rest ↔
      ∃ others, found = .character value :: others ∧ Letters text others rest := by
  constructor
  · intro reads
    cases reads with
    | quote => exact absurd rfl notQuote
    | plain _ _ _ next => exact ⟨_, rfl, next⟩
    | _ => exact absurd rfl notBackslash
  · rintro ⟨others, rfl, next⟩
    exact .plain notControl notQuote notBackslash next

/-- A character that is escaped by a letter is read back. -/
theorem letters_short_iff
    {letter value : Char}
    (stands : escaped? letter = some value)
    (notCode : letter ≠ 'u') :
    Letters ('\\' :: letter :: text) found rest ↔
      ∃ others, found = .character value :: others ∧ Letters text others rest := by
  constructor
  · intro reads
    cases reads with
    | plain _ _ notBackslash => exact absurd rfl notBackslash
    | short alsoStands next =>
        obtain rfl := Option.some.inj (stands.symm.trans alsoStands)
        exact ⟨_, rfl, next⟩
    | _ => exact absurd rfl notCode
  · rintro ⟨others, rfl, next⟩
    exact .short stands next

/-- A character that is written as its code is read back. -/
theorem letters_code_iff
    {digits : List Char}
    {unit : Nat}
    (isUnit : codeUnit? digits = some unit)
    (small : unit < 0xd800) :
    Letters ('\\' :: 'u' :: (digits ++ text)) found rest ↔
      ∃ others, found = .character (Char.ofNat unit) :: others ∧ Letters text others rest := by
  have notHigh : ¬ isHigh unit := fun high => by unfold isHigh at high; omega
  have notLow : ¬ isLow unit := fun low => by unfold isLow at low; omega
  constructor
  · intro reads
    generalize written : '\\' :: 'u' :: (digits ++ text) = whole at reads
    have sameUnit {others after : List Char} {other : Nat}
        (whole_eq : '\\' :: 'u' :: (digits ++ text) = '\\' :: 'u' :: (others ++ after))
        (isOther : codeUnit? others = some other) : unit = other ∧ text = after := by
      have sameLength : digits.length = others.length := by
        rw [length_of_codeUnit? isUnit, length_of_codeUnit? isOther]
      obtain ⟨rfl, rfl⟩ := List.append_inj (List.cons.inj (List.cons.inj whole_eq).2).2 sameLength
      exact ⟨Option.some.inj (isUnit.symm.trans isOther), rfl⟩
    cases reads with
    | quote => simp at written
    | plain _ _ notBackslash => exact absurd (List.cons.inj written).1.symm notBackslash
    | short stands =>
        obtain ⟨rfl, _⟩ := List.cons.inj (List.cons.inj written).2
        simp [escaped?] at stands
    | code isOther _ _ next =>
        obtain ⟨rfl, rfl⟩ := sameUnit written isOther
        exact ⟨_, rfl, next⟩
    | pair firstUnit _ highFirst =>
        obtain ⟨rfl, _⟩ := sameUnit written firstUnit
        exact absurd highFirst notHigh
    | lone isOther isHalf =>
        obtain ⟨rfl, _⟩ := sameUnit written isOther
        exact absurd isHalf (not_or.mpr ⟨notHigh, notLow⟩)
  · rintro ⟨others, rfl, next⟩
    exact .code isUnit notHigh notLow next

/-- Each character is read back from what is written for it. -/
theorem letters_escape_iff (value : Char) :
    Letters (escape value ++ text) found rest ↔
      ∃ others, found = .character value :: others ∧ Letters text others rest := by
  unfold escape
  cases isLetter : escapeLetter? value with
  | some letter =>
      obtain ⟨stands, notCode⟩ := escaped?_of_escapeLetter? isLetter
      exact letters_short_iff stands notCode
  | none =>
      by_cases control : value.toNat < 0x20
      · rw [if_pos control]
        have reads := @letters_code_iff text rest found _ _ (codeUnit?_control control) (by omega)
        rwa [Char.ofNat_toNat] at reads
      · have notEscaped : value ≠ '"' ∧ value ≠ '\\' := by
          constructor <;> rintro rfl <;> simp [escapeLetter?] at isLetter
        simp only [if_neg control]
        exact letters_plain_iff (by omega) notEscaped.1 notEscaped.2

/-- A text is read back from what is written for it between quotes. -/
theorem letters_escapeAll_iff (written : List Char) :
    Letters (escapeAll written ++ '"' :: text) found rest ↔
      found = written.map .character ∧ rest = text := by
  induction written generalizing found with
  | nil => exact letters_quote_iff
  | cons value others inductionHypothesis =>
      rw [escapeAll_cons, List.append_assoc, letters_escape_iff]
      simp only [inductionHypothesis, List.map_cons]
      constructor
      · rintro ⟨_, rfl, rfl, rfl⟩
        exact ⟨rfl, rfl⟩
      · rintro ⟨rfl, rfl⟩
        exact ⟨_, rfl, rfl, rfl⟩

end

/-! ## Values -/

mutual

/-- What a value stands for. -/
def Value.datum : Value -> Datum
  | .string text => .string (letters text)
  | .object members => .object (Value.memberData members)

/-- What the members of an object stand for. -/
def Value.memberData : List (String × Value) -> List (List Letter × Datum)
  | [] => []
  | (name, value) :: rest => (letters name, value.datum) :: Value.memberData rest

end

/-- To prove something of all values, prove it of an object from its members. -/
theorem Value.induction_on_members
    {motive : Value -> Prop}
    (string : ∀ text, motive (.string text))
    (object : ∀ members, (∀ member ∈ members, motive member.2) -> motive (.object members))
    (value : Value) : motive value := by
  refine Value.datum.induct motive (fun members => ∀ member ∈ members, motive member.2)
    string object ?_ ?_ value
  · intro member present
    simp at present
  · intro name value rest ofValue ofRest
    exact List.forall_mem_cons.mpr ⟨ofValue, ofRest⟩

/-- The members of an object in the compact form. -/
def memberText (members : List (String × Value)) : List Char :=
  (Value.memberPieces members).flatMap String.toList

section
variable (rest : List Char)

theorem toList_quote (text : String) :
    (quote text).toList = '"' :: (escapeAll text.toList ++ ['"']) :=
  String.toList_ofList

/-- The pieces in which a string is written make up the string. -/
theorem toList_quotePieces (text : String) :
    (quotePieces text).flatMap String.toList = (quote text).toList := by
  have escapeAll_flatten (runs : List (List Char)) :
      runs.flatMap escapeAll = escapeAll runs.flatten := by
    induction runs with
    | nil => rfl
    | cons run others inductionHypothesis =>
        rw [List.flatMap_cons, List.flatten_cons, escapeAll_append, inductionHypothesis]
  simp [quotePieces, List.flatMap_map, escapeAll_flatten, toList_quote]

theorem toList_compact (value : Value) :
    value.compact.toList = value.pieces.flatMap String.toList :=
  String.toList_join

theorem toList_compact_string (text : String) :
    (Value.string text).compact.toList ++ rest = '"' :: (escapeAll text.toList ++ '"' :: rest) := by
  simp [toList_compact, Value.pieces, toList_quotePieces, toList_quote]

theorem toList_compact_object (members : List (String × Value)) :
    (Value.object members).compact.toList ++ rest =
      '\x7b' :: (memberText members ++ '\x7d' :: rest) := by
  simp [toList_compact, Value.pieces, memberText]

theorem memberText_singleton (name : String) (value : Value) :
    memberText [(name, value)] ++ rest =
      '"' :: (escapeAll name.toList ++ '"' :: ':' :: (value.compact.toList ++ rest)) := by
  simp [memberText, Value.memberPieces, toList_quotePieces, toList_quote,
    toList_compact]

theorem memberText_cons_cons
    (name : String)
    (value : Value)
    (other : String × Value)
    (others : List (String × Value)) :
    memberText ((name, value) :: other :: others) ++ rest =
      '"' :: (escapeAll name.toList ++ '"' :: ':' ::
        (value.compact.toList ++ ',' :: (memberText (other :: others) ++ rest))) := by
  simp [memberText, Value.memberPieces, toList_quotePieces, toList_quote,
    toList_compact]

end

section
variable {blank : Char -> Bool} {text rest : List Char}

/-- There is no gap before a character that is not blank. -/
theorem gap_cons_iff
    {character : Char}
    (notBlank : blank character = false)
    (whole : List Char) :
    Gap blank (character :: whole) rest ↔ rest = character :: whole := by
  constructor
  · intro gap
    cases gap with
    | none => rfl
    | more isBlank => simp [notBlank] at isBlank
  · rintro rfl
    exact .none _

/-- What begins with a quote is a string. -/
theorem reads_quote_iff {found : Datum} :
    Reads blank ('"' :: text) found rest ↔
      ∃ value, found = .string value ∧ Letters text value rest := by
  constructor
  · intro reads
    generalize written : '"' :: text = whole at reads
    cases reads with
    | string isString =>
        obtain ⟨_, rfl⟩ := List.cons.inj written
        exact ⟨_, rfl, isString⟩
    | number isNumber =>
        obtain ⟨first, others, rfl, isFirst⟩ := isNumber.head
        obtain ⟨rfl, _⟩ := List.cons.inj written
        simp at isFirst
    | _ => simp at written
  · rintro ⟨value, rfl, isString⟩
    exact .string isString

/-- What begins with a brace is an object. -/
theorem reads_brace_iff {found : Datum} :
    Reads blank ('\x7b' :: text) found rest ↔
      (found = .object [] ∧ Gap blank text ('\x7d' :: rest)) ∨
      ∃ members first, found = .object members ∧ Gap blank text first ∧
        Members blank first members rest := by
  constructor
  · intro reads
    generalize written : '\x7b' :: text = whole at reads
    cases reads with
    | emptyObject gap =>
        obtain ⟨_, rfl⟩ := List.cons.inj written
        exact .inl ⟨rfl, gap⟩
    | object gap isMembers =>
        obtain ⟨_, rfl⟩ := List.cons.inj written
        exact .inr ⟨_, _, rfl, gap, isMembers⟩
    | number isNumber =>
        obtain ⟨first, others, rfl, isFirst⟩ := isNumber.head
        obtain ⟨rfl, _⟩ := List.cons.inj written
        simp at isFirst
    | _ => simp at written
  · rintro (⟨rfl, gap⟩ | ⟨members, first, rfl, gap, isMembers⟩)
    · exact .emptyObject gap
    · exact .object gap isMembers

/-! ## The compact form -/

/-- A value is read back from its compact form, whatever follows. -/
def ReadsBack (blank : Char -> Bool) (value : Value) : Prop :=
  ∀ after found rest, Reads blank (value.compact.toList ++ after) found rest ↔
    found = value.datum ∧ rest = after

variable (onlyBlanks : ∀ character, blank character = true -> isBlank character = true)
include onlyBlanks

/-- The marks of the grammar are not blank. -/
theorem notBlank_of_mark
    {mark : Char}
    (isMark : isBlank mark = false) : blank mark = false := by
  cases blankMark : blank mark with
  | false => rfl
  | true => exact (isMark.symm.trans (onlyBlanks mark blankMark)).symm

/-- There is no gap before a value. -/
theorem gap_compact_iff (value : Value) (after : List Char) :
    Gap blank (value.compact.toList ++ after) rest ↔ rest = value.compact.toList ++ after := by
  cases value with
  | string =>
      rw [toList_compact_string]
      exact gap_cons_iff (notBlank_of_mark onlyBlanks (by decide)) _
  | object =>
      rw [toList_compact_object]
      exact gap_cons_iff (notBlank_of_mark onlyBlanks (by decide)) _

/-- There is no gap before a member. -/
theorem gap_memberText_iff (member : String × Value) (others : List (String × Value))
    (after : List Char) :
    Gap blank (memberText (member :: others) ++ after) rest ↔
      rest = memberText (member :: others) ++ after := by
  cases others with
  | nil =>
      rw [memberText_singleton]
      exact gap_cons_iff (notBlank_of_mark onlyBlanks (by decide)) _
  | cons =>
      rw [memberText_cons_cons]
      exact gap_cons_iff (notBlank_of_mark onlyBlanks (by decide)) _

/-- A member is read back from its name and its value. -/
theorem member_iff
    {name : String}
    {value : Value}
    (readsValue : ReadsBack blank value)
    (after : List Char)
    (found : List Letter × Datum) :
    Member blank
        ('"' :: (escapeAll name.toList ++ '"' :: ':' :: (value.compact.toList ++ after))) found
        rest ↔
      found = (letters name, value.datum) ∧ rest = after := by
  have colon := notBlank_of_mark onlyBlanks (show isBlank ':' = false by decide)
  constructor
  · intro isMember
    cases isMember with
    | named isName beforeColon colonGap reads =>
        obtain ⟨rfl, rfl⟩ := (letters_escapeAll_iff _).mp isName
        obtain ⟨_, rfl⟩ := List.cons.inj ((gap_cons_iff colon _).mp beforeColon)
        obtain rfl := (gap_compact_iff onlyBlanks value after).mp colonGap
        obtain ⟨rfl, rfl⟩ := (readsValue _ _ _).mp reads
        exact ⟨rfl, rfl⟩
  · rintro ⟨rfl, rfl⟩
    exact .named ((letters_escapeAll_iff _).mpr ⟨rfl, rfl⟩) (.none _) (.none _)
      ((readsValue _ _ _).mpr ⟨rfl, rfl⟩)

/-- The members of an object are read back. -/
theorem members_iff
    {member : String × Value}
    {others : List (String × Value)}
    (readsValues : ∀ each ∈ member :: others, ReadsBack blank each.2)
    (after : List Char)
    (found : List (List Letter × Datum)) :
    Members blank (memberText (member :: others) ++ '\x7d' :: after) found rest ↔
      found = Value.memberData (member :: others) ∧ rest = after := by
  have brace := notBlank_of_mark onlyBlanks (show isBlank '\x7d' = false by decide)
  have comma := notBlank_of_mark onlyBlanks (show isBlank ',' = false by decide)
  obtain ⟨name, value⟩ := member
  obtain ⟨readsValue, readsOthers⟩ := List.forall_mem_cons.mp readsValues
  induction others generalizing name value found with
  | nil =>
      rw [memberText_singleton]
      constructor
      · intro isMembers
        cases isMembers with
        | last isMember gap =>
            obtain ⟨rfl, rfl⟩ := (member_iff onlyBlanks readsValue _ _).mp isMember
            obtain ⟨_, rfl⟩ := List.cons.inj ((gap_cons_iff brace _).mp gap)
            exact ⟨rfl, rfl⟩
        | more isMember beforeComma =>
            obtain ⟨rfl, rfl⟩ := (member_iff onlyBlanks readsValue _ _).mp isMember
            simp [gap_cons_iff brace] at beforeComma
      · rintro ⟨rfl, rfl⟩
        exact .last ((member_iff onlyBlanks readsValue _ _).mpr ⟨rfl, rfl⟩) (.none _)
  | cons other others inductionHypothesis =>
      obtain ⟨readsOther, readsRest⟩ := List.forall_mem_cons.mp readsOthers
      have others_iff (found : List (List Letter × Datum)) :=
        inductionHypothesis found other.1 other.2 readsOthers readsOther readsRest
      rw [memberText_cons_cons]
      constructor
      · intro isMembers
        cases isMembers with
        | last isMember gap =>
            obtain ⟨rfl, rfl⟩ := (member_iff onlyBlanks readsValue _ _).mp isMember
            simp [gap_cons_iff comma] at gap
        | more isMember beforeComma afterComma isOthers =>
            obtain ⟨rfl, rfl⟩ := (member_iff onlyBlanks readsValue _ _).mp isMember
            obtain ⟨_, rfl⟩ := List.cons.inj ((gap_cons_iff comma _).mp beforeComma)
            obtain rfl := (gap_memberText_iff onlyBlanks other others _).mp afterComma
            obtain ⟨rfl, rfl⟩ := (others_iff _).mp isOthers
            exact ⟨rfl, rfl⟩
      · rintro ⟨rfl, rfl⟩
        exact .more ((member_iff onlyBlanks readsValue _ _).mpr ⟨rfl, rfl⟩) (.none _) (.none _)
          ((others_iff _).mpr ⟨rfl, rfl⟩)

theorem readsBack (value : Value) : ReadsBack blank value := by
  induction value using Value.induction_on_members with
  | string text =>
      intro after found rest
      rw [toList_compact_string, reads_quote_iff]
      simp only [letters_escapeAll_iff]
      constructor
      · rintro ⟨_, rfl, rfl, rfl⟩
        exact ⟨rfl, rfl⟩
      · rintro ⟨rfl, rfl⟩
        exact ⟨_, rfl, rfl, rfl⟩
  | object members inductionHypothesis =>
      intro after found rest
      have brace := notBlank_of_mark onlyBlanks (show isBlank '\x7d' = false by decide)
      rw [toList_compact_object, reads_brace_iff]
      cases members with
      | nil =>
          simp only [memberText, Value.memberPieces, List.flatMap_nil, List.nil_append,
            gap_cons_iff brace]
          constructor
          · rintro (⟨rfl, same⟩ | ⟨_, _, _, rfl, isMembers⟩)
            · exact ⟨rfl, (List.cons.inj same).2⟩
            · cases isMembers with
              | last isMember => cases isMember
              | more isMember => cases isMember
          · rintro ⟨rfl, rfl⟩
            exact .inl ⟨rfl, rfl⟩
      | cons member others =>
          simp only [gap_memberText_iff onlyBlanks]
          constructor
          · rintro (⟨_, same⟩ | ⟨_, _, rfl, rfl, isMembers⟩)
            · obtain ⟨name, value⟩ := member
              cases others <;> simp [memberText_singleton, memberText_cons_cons] at same
            · obtain ⟨rfl, rfl⟩ := (members_iff onlyBlanks inductionHypothesis _ _).mp isMembers
              exact ⟨rfl, rfl⟩
          · rintro ⟨rfl, rfl⟩
            exact .inr ⟨_, _, rfl, rfl,
              (members_iff onlyBlanks inductionHypothesis _ _).mpr ⟨rfl, rfl⟩⟩

/-- The compact form of a value stands for the value and for nothing else. -/
theorem document_compact_iff (value : Value) (found : Datum) :
    Document blank value.compact.toList found ↔ found = value.datum := by
  have whole := List.append_nil value.compact.toList
  constructor
  · rintro ⟨first, last, gap, reads, _⟩
    rw [← whole] at gap
    obtain rfl := (gap_compact_iff onlyBlanks value []).mp gap
    exact ((readsBack onlyBlanks value _ _ _).mp reads).1
  · rintro rfl
    exact ⟨_, [], .none _,
      by rw [← whole]; exact (readsBack onlyBlanks value _ _ _).mpr ⟨rfl, rfl⟩, .none _⟩

end

/-! ## Characters that are not written -/

/-- The text has no control characters below U+0020. -/
def NoControl (text : List Char) : Prop := ∀ character ∈ text, 0x20 ≤ character.toNat

theorem noControl_append_iff (first second : List Char) :
    NoControl (first ++ second) ↔ NoControl first ∧ NoControl second :=
  List.forall_mem_append

/-- No control characters are written for a character. -/
theorem noControl_escape (value : Char) : NoControl (escape value) := by
  have noControl_hexDigit : ∀ digit < 16, 0x20 ≤ (hexDigit digit).toNat := by decide
  unfold escape
  cases isLetter : escapeLetter? value with
  | some letter =>
      have notControl : 0x20 ≤ letter.toNat := by
        unfold escapeLetter? at isLetter
        split at isLetter <;> simp_all <;> subst isLetter <;> decide
      simpa [NoControl] using notControl
  | none =>
      by_cases control : value.toNat < 0x20
      · have third := noControl_hexDigit (value.toNat / 16) (by omega)
        have fourth := noControl_hexDigit (value.toNat % 16) (by omega)
        simpa [NoControl, control] using ⟨third, fourth⟩
      · have notControl : 0x20 ≤ value.toNat := Nat.le_of_not_lt control
        simpa [NoControl, control] using notControl

theorem noControl_escapeAll (text : List Char) : NoControl (escapeAll text) := by
  induction text with
  | nil => simp [NoControl]
  | cons value others inductionHypothesis =>
      exact (noControl_append_iff _ _).mpr ⟨noControl_escape value, inductionHypothesis⟩

theorem noControl_quotePieces (text : String) :
    ∀ piece ∈ quotePieces text, NoControl piece.toList := by
  have mark : NoControl "\"".toList := by simp [NoControl]
  refine List.forall_mem_append.mpr ⟨List.forall_mem_cons.mpr ⟨mark, ?_⟩, by simpa using mark⟩
  intro piece present
  obtain ⟨run, _, rfl⟩ := List.mem_map.mp present
  rw [String.toList_ofList]
  exact noControl_escapeAll run

/-- No piece of a value has control characters. -/
theorem noControl_pieces (value : Value) : ∀ piece ∈ value.pieces, NoControl piece.toList := by
  have marks : NoControl "\x7b".toList ∧ NoControl "\x7d".toList ∧ NoControl ":".toList ∧
      NoControl ",".toList := by
    simp [NoControl]
  obtain ⟨openBrace, closeBrace, colon, comma⟩ := marks
  refine Value.pieces.induct (fun value => ∀ piece ∈ value.pieces, NoControl piece.toList)
    (fun members => ∀ piece ∈ Value.memberPieces members, NoControl piece.toList)
    ?string ?object ?noMembers ?lastMember ?moreMembers value
  case string =>
    intro text
    rw [Value.pieces]
    exact noControl_quotePieces text
  case object =>
    intro members ofMembers
    rw [Value.pieces]
    exact List.forall_mem_cons.mpr ⟨openBrace,
      List.forall_mem_append.mpr ⟨ofMembers, List.forall_mem_singleton.mpr closeBrace⟩⟩
  case noMembers =>
    intro piece present
    simp [Value.memberPieces] at present
  case lastMember =>
    intro name value ofValue
    rw [Value.memberPieces]
    exact List.forall_mem_append.mpr ⟨noControl_quotePieces name,
      List.forall_mem_cons.mpr ⟨colon, ofValue⟩⟩
  case moreMembers =>
    intro name value other others ofValue ofOthers
    rw [Value.memberPieces]
    exact List.forall_mem_append.mpr ⟨noControl_quotePieces name,
      List.forall_mem_cons.mpr ⟨colon,
        List.forall_mem_append.mpr ⟨ofValue, List.forall_mem_cons.mpr ⟨comma, ofOthers⟩⟩⟩⟩

/-- No control characters are written for a value. -/
theorem noControl_compact (value : Value) : NoControl value.compact.toList := by
  intro character present
  rw [toList_compact] at present
  obtain ⟨piece, isPiece, inPiece⟩ := List.mem_flatMap.mp present
  exact noControl_pieces value piece isPiece character inPiece

end Json
end ErrorTemplates
