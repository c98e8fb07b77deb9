import ErrorTemplates.Proofs.Json.Compact
import ErrorTemplates.Proofs.Json.Reading

/-!
# Values of a kind

A value ends where its grammar says if no number goes on after it. A reader that asks for a string
has a result for every value: the string, or a fault for a value of another kind.
-/

namespace ErrorTemplates
namespace Json

/-! ## Numbers -/

/-- The reader passes a text, whatever it makes of it. -/
def Passes {α : Type} (reader : Reader α) (text rest : List Char) : Prop :=
  ∃ found, Yields reader text (some (found, rest))

theorem passes_pure {α : Type} (value : α) (text : List Char) :
    Passes (pure value : Reader α) text text :=
  ⟨value, yields_pure value text⟩

theorem Yields.passes
    {α β : Type}
    {reader : Reader α}
    {next : α -> Reader β}
    {value : α}
    {text after rest : List Char}
    (first : Yields reader text (some (value, after)))
    (passes : Passes (next value) after rest) : Passes (reader >>= next) text rest := by
  obtain ⟨found, yields⟩ := passes
  exact ⟨found, first.bind yields⟩

theorem Passes.bind
    {α β : Type}
    {reader : Reader α}
    {next : α -> Reader β}
    {text after rest : List Char}
    (first : Passes reader text after)
    (passes : ∀ value, Passes (next value) after rest) : Passes (reader >>= next) text rest := by
  obtain ⟨found, yields⟩ := first
  exact yields.passes (passes found)

/-- The text does not begin with a digit. -/
def Undigit (text : List Char) : Prop := ∀ character ∈ text.head?, character.isDigit = false

/-- No number goes on with this text. -/
structure EndsNumber (text : List Char) : Prop where
  undigit : Undigit text
  notPoint : text.head? ≠ some '.'
  notMark : text.head? ≠ some 'e' ∧ text.head? ≠ some 'E'

section
variable {text rest written : List Char} {cause : Cause}

theorem yields_digits
    (areDigits : ∀ character ∈ written, character.isDigit = true)
    (undigit : Undigit rest) : Yields digits (written ++ rest) (some (written, rest)) := by
  have taken : (written ++ rest).takeWhile Char.isDigit = written := by
    rw [List.takeWhile_append_of_pos areDigits]
    cases rest with
    | nil => simp
    | cons character others =>
        have notDigit : character.isDigit = false := by simpa [Undigit] using undigit
        simp [notDigit]
  intro position
  have ended : left? (digits { rest := written ++ rest, position }) =
      some ((written ++ rest).takeWhile Char.isDigit,
        (written ++ rest).drop ((written ++ rest).takeWhile Char.isDigit).length) := rfl
  rw [ended, taken, List.drop_left]

theorem passes_wholePart
    (isWhole : IsWhole written)
    (undigit : Undigit rest) : Passes (wholePart cause) (written ++ rest) rest := by
  obtain ⟨⟨someDigit, areDigits⟩, noZero⟩ := isWhole
  obtain ⟨first, others, rfl⟩ := List.exists_cons_of_ne_nil someDigit
  obtain ⟨isDigit, areDigits⟩ := List.forall_mem_cons.mp areDigits
  have notAny : rest.head?.any Char.isDigit = false := by
    cases rest with
    | nil => rfl
    | cons character others => simpa [Undigit] using undigit
  rw [wholePart]
  refine (yields_next? first (others ++ rest)).passes ?_
  dsimp only
  rw [if_neg (by simp [isDigit])]
  by_cases isZero : first = '0'
  · obtain rfl : others = [] := (List.cons.inj (noZero (congrArg some isZero))).2
    rw [if_pos isZero]
    refine (yields_pure [] _).passes ((yields_peek? _).passes ?_)
    rw [if_neg (by simp [notAny])]
    exact passes_pure _ _
  · rw [if_neg isZero]
    refine (yields_digits areDigits undigit).passes ((yields_peek? _).passes ?_)
    rw [if_neg (by simp [isZero])]
    exact passes_pure _ _

theorem passes_fractionPart
    (isFraction : IsFraction written)
    (undigit : Undigit rest)
    (notPoint : rest.head? ≠ some '.') : Passes (fractionPart cause) (written ++ rest) rest := by
  rcases isFraction with rfl | ⟨found, rfl, someDigit, areDigits⟩
  · refine (yields_peek? rest).passes ?_
    rw [if_pos (by simpa using notPoint)]
    exact passes_pure _ _
  · refine (yields_peek? _).passes ?_
    rw [if_neg (by simp)]
    refine (yields_skip '.' _).passes ((yields_digits areDigits undigit).passes ?_)
    rw [if_neg (by simpa using someDigit)]
    exact passes_pure _ _

theorem passes_exponentPart
    (isExponent : IsExponent written)
    (undigit : Undigit rest)
    (notMark : rest.head? ≠ some 'e' ∧ rest.head? ≠ some 'E') :
    Passes (exponentPart cause) (written ++ rest) rest := by
  rcases isExponent with rfl | ⟨mark, sign, found, rfl, isMark, isSign, someDigit, areDigits⟩
  · refine (yields_peek? rest).passes ?_
    rw [if_pos ?_]
    · exact passes_pure _ _
    · cases rest with
      | nil => rfl
      | cons character others => simpa using notMark
  · obtain ⟨digit, others, rfl⟩ := List.exists_cons_of_ne_nil someDigit
    obtain ⟨isDigit, areDigits⟩ := List.forall_mem_cons.mp areDigits
    have notSign : digit ≠ '-' ∧ digit ≠ '+' := by
      constructor <;> rintro rfl <;> simp at isDigit
    have passesDigits (isNegative : Bool) : Passes (do
        if !digit.isDigit then failAfter digit .invalidNumber
        let found := digit :: (← digits)
        let value := found.foldl (fun value digit => 10 * value + (digit.toNat - 48)) 0
        return some (if isNegative then -Int.ofNat value else Int.ofNat value))
        (others ++ rest) rest := by
      rw [if_neg (by simp [isDigit])]
      exact (yields_digits areDigits undigit).passes (passes_pure _ _)
    rw [exponentPart]
    simp only [List.cons_append, List.append_assoc]
    refine (yields_peek? _).passes ?_
    rw [if_neg (by rcases isMark with rfl | rfl <;> simp)]
    refine (yields_skip mark _).passes ((yields_peek? _).passes ((yields_peek? _).passes ?_))
    rcases isSign with rfl | rfl | rfl
    · rw [if_neg (by simp [notSign])]
      exact (yields_next? digit _).passes (passesDigits _)
    · rw [if_pos (by simp)]
      exact (yields_skip '+' _).passes ((yields_next? digit _).passes (passesDigits _))
    · rw [if_pos (by simp)]
      exact (yields_skip '-' _).passes ((yields_next? digit _).passes (passesDigits _))

/-- A number is read up to a text with which no number goes on. -/
theorem passes_number
    {whole fraction exponent : List Char}
    (isWhole : IsWhole whole)
    (isFraction : IsFraction fraction)
    (isExponent : IsExponent exponent)
    (ends : EndsNumber rest)
    (isNegative : Bool) :
    Passes (number cause isNegative) (whole ++ (fraction ++ (exponent ++ rest))) rest := by
  have afterFraction : Undigit (exponent ++ rest) ∧ (exponent ++ rest).head? ≠ some '.' := by
    rcases isExponent with rfl | ⟨mark, sign, found, rfl, rfl | rfl, _⟩
    · exact ⟨ends.undigit, ends.notPoint⟩
    · simp [Undigit]
    · simp [Undigit]
  have afterWhole : Undigit (fraction ++ (exponent ++ rest)) := by
    rcases isFraction with rfl | ⟨found, rfl, _⟩
    · exact afterFraction.1
    · simp [Undigit]
  refine (passes_wholePart isWhole afterWhole).bind fun whole => ?_
  refine (passes_fractionPart isFraction afterFraction.1 afterFraction.2).bind fun fraction => ?_
  refine (passes_exponentPart isExponent ends.undigit ends.notMark).bind fun exponent => ?_
  exact passes_pure _ rest

end

/-! ## Beginnings and ends of values -/

section
variable {text rest : List Char} {datum : Datum}

/-- What may stand before the next token ends a number. -/
theorem endsNumber_of_gap
    {mark : Char}
    (gap : Gap isBlank text (mark :: rest))
    (isMark : mark = ',' ∨ mark = ']' ∨ mark = '\x7d') : EndsNumber text := by
  cases gap with
  | none => rcases isMark with rfl | rfl | rfl <;> exact ⟨by simp [Undigit], by simp, by simp⟩
  | more blank =>
      simp only [isBlank, Bool.or_eq_true, beq_iff_eq] at blank
      rcases blank with ((rfl | rfl) | rfl) | rfl <;>
        exact ⟨by simp [Undigit], by simp, by simp⟩

theorem notBlank_of_isDigit {character : Char} (isDigit : character.isDigit = true) :
    isBlank character = false := by
  cases blank : isBlank character with
  | false => rfl
  | true =>
      simp only [isBlank, Bool.or_eq_true, beq_iff_eq] at blank
      rcases blank with ((rfl | rfl) | rfl) | rfl <;> simp at isDigit

/-- A value begins with none of the characters that stand between values. -/
theorem Reads.head (reads : Reads isBlank text datum rest) :
    ∃ first others, text = first :: others ∧ isBlank first = false ∧ first ≠ ']' ∧
      first ≠ '\x7d' := by
  cases reads with
  | number isNumber =>
      obtain ⟨first, others, rfl, rfl | isDigit⟩ := isNumber.head
      · exact ⟨'-', others ++ rest, rfl, by decide, by decide, by decide⟩
      · refine ⟨first, others ++ rest, rfl, notBlank_of_isDigit isDigit, ?_, ?_⟩
        · rintro rfl
          simp at isDigit
        · rintro rfl
          simp at isDigit
  | _ => exact ⟨_, _, rfl, by decide, by decide, by decide⟩

theorem Elements.head {elements : List Datum} (isElements : Elements isBlank text elements rest) :
    ∃ first others, text = first :: others ∧ isBlank first = false ∧ first ≠ ']' ∧
      first ≠ '\x7d' := by
  cases isElements with
  | last reads => exact reads.head
  | more reads => exact reads.head

theorem Member.head
    {member : List Letter × Datum}
    (isMember : Member isBlank text member rest) : ∃ others, text = '"' :: others := by
  cases isMember
  exact ⟨_, rfl⟩

theorem Members.head
    {members : List (List Letter × Datum)}
    (isMembers : Members isBlank text members rest) : ∃ others, text = '"' :: others := by
  cases isMembers with
  | last isMember => exact isMember.head
  | more isMember => exact isMember.head

/-- To prove something of the last members of an object, prove it of the very last one, and of one
more from those after it. -/
theorem Members.induction_on_members
    {blank : Char -> Bool}
    {motive : ∀ text members rest, Members blank text members rest -> Prop}
    (last : ∀ {text after rest member} (isMember : Member blank text member after)
      (gap : Gap blank after ('\x7d' :: rest)), motive text [member] rest (.last isMember gap))
    (more : ∀ {text after separated next rest member others}
      (isMember : Member blank text member after) (beforeComma : Gap blank after (',' :: separated))
      (afterComma : Gap blank separated next) (isOthers : Members blank next others rest),
      motive next others rest isOthers ->
      motive text (member :: others) rest (.more isMember beforeComma afterComma isOthers))
    {text : List Char}
    {members : List (List Letter × Datum)}
    {rest : List Char}
    (isMembers : Members blank text members rest) : motive text members rest isMembers :=
  @Members.rec blank (fun _ _ _ _ => True) (fun _ _ _ _ => True) (fun _ _ _ _ => True) motive
    (fun _ => trivial) (fun _ => trivial) (fun _ => trivial) (fun _ _ => trivial)
    (fun _ => trivial) (fun _ => trivial) (fun _ _ _ => trivial) (fun _ => trivial)
    (fun _ _ _ => trivial) (fun _ _ _ => trivial) (fun _ _ _ _ _ _ => trivial)
    (fun _ _ _ _ _ => trivial)
    (fun isMember gap _ => last isMember gap)
    (fun isMember beforeComma afterComma isOthers _ =>
      more isMember beforeComma afterComma isOthers)
    text members rest isMembers

theorem Letters.length_lt {found : List Letter} (isString : Letters text found rest) :
    rest.length < text.length := by
  induction isString <;> simp only [List.length_cons, List.length_append] at * <;> omega

/-- Something is read of every value. -/
theorem Reads.length_lt (reads : Reads isBlank text datum rest) : rest.length < text.length := by
  refine @Reads.rec isBlank
    (fun text _ rest _ => rest.length < text.length)
    (fun text _ rest _ => rest.length < text.length)
    (fun text _ rest _ => rest.length < text.length)
    (fun text _ rest _ => rest.length < text.length)
    ?null ?yes ?no ?number ?string ?emptyArray ?array ?emptyObject ?object
    ?lastElement ?moreElements ?named ?lastMember ?moreMembers text datum rest reads
  case number =>
    intro written isNumber rest
    obtain ⟨first, others, rfl, _⟩ := isNumber.head
    rw [List.length_append, List.length_cons]
    omega
  case string =>
    intro text rest value isString
    exact Nat.lt_succ_of_lt isString.length_lt
  case emptyArray =>
    intro text rest gap
    exact Nat.lt_succ_of_lt (Nat.lt_of_succ_le gap.length_le)
  case array =>
    intro text first rest elements gap _ shorter
    exact Nat.lt_succ_of_lt (Nat.lt_of_lt_of_le shorter gap.length_le)
  case emptyObject =>
    intro text rest gap
    exact Nat.lt_succ_of_lt (Nat.lt_of_succ_le gap.length_le)
  case object =>
    intro text first rest members gap _ shorter
    exact Nat.lt_succ_of_lt (Nat.lt_of_lt_of_le shorter gap.length_le)
  case lastElement =>
    intro text after rest element _ gap shorter
    exact Nat.lt_trans (Nat.lt_of_succ_le gap.length_le) shorter
  case moreElements =>
    intro text after separated next rest element others _ beforeComma afterComma _ shorter
      shorterOthers
    have lengths := And.intro beforeComma.length_le afterComma.length_le
    simp only [List.length_cons] at lengths
    omega
  case named =>
    intro text afterName afterColon written rest name value isName beforeColon colonGap _ shorter
    have lengths := And.intro beforeColon.length_le colonGap.length_le
    have shorterName := isName.length_lt
    simp only [List.length_cons] at lengths ⊢
    omega
  case lastMember =>
    intro text after rest member _ gap shorter
    exact Nat.lt_trans (Nat.lt_of_succ_le gap.length_le) shorter
  case moreMembers =>
    intro text after separated next rest member others _ beforeComma afterComma _ shorter
      shorterOthers
    have lengths := And.intro beforeComma.length_le afterComma.length_le
    simp only [List.length_cons] at lengths
    omega
  all_goals
    intro rest
    simp
    omega

theorem Member.length_lt
    {member : List Letter × Datum}
    (isMember : Member isBlank text member rest) : rest.length < text.length := by
  cases isMember with
  | named isName beforeColon colonGap reads =>
      have lengths := And.intro beforeColon.length_le colonGap.length_le
      have shorterName := isName.length_lt
      have shorterValue := reads.length_lt
      simp only [List.length_cons] at lengths ⊢
      omega

end

/-! ## Values of a kind -/

/-- The text that a datum is. -/
def Datum.text? : Datum -> Option String
  | .string found => Json.text? found
  | _ => none

/-- The text that a datum is, or nothing for null. -/
def Datum.optionalText? : Datum -> Option (Option String)
  | .null => some none
  | datum => datum.text?.map some

section
variable {before text rest : List Char} {datum : Datum}

theorem yields_wrongKind {α : Type} (expected : String) (text : List Char) :
    Yields (wrongKind expected : Reader α) text none :=
  yields_bind_fails _ fun _ rest => yields_failHere _ rest

/-- What does not begin with a quote is no string. -/
theorem Reads.text?_eq_none
    (reads : Reads isBlank text datum rest)
    (notQuote : text.head? ≠ some '"') : datum.text? = none := by
  cases reads <;> first | rfl | simp at notQuote

/-- Only strings without halves of characters are read where a string has to be. -/
theorem yields_stringValue
    (gap : Gap isBlank before text)
    (reads : Reads isBlank text datum rest) :
    Yields stringValue before (datum.text?.map (·, rest)) := by
  obtain ⟨first, others, rfl, notBlank, _⟩ := reads.head
  rw [stringValue]
  refine (yields_afterBlanks_cons gap notBlank).bind ?_
  by_cases isQuote : first = '"'
  · subst isQuote
    obtain ⟨found, rfl, isString⟩ := reads_quote_iff.mp reads
    exact yields_string isString
  · rw [reads.text?_eq_none (by simpa using isQuote)]
    split
    · contradiction
    · next same => exact absurd (Option.some.inj same) isQuote
    · exact yields_wrongKind _ _

/-- What begins like null is null. -/
theorem Reads.eq_null
    {others : List Char}
    (reads : Reads isBlank ('n' :: others) datum rest) :
    datum = .null ∧ others = "ull".toList ++ rest := by
  generalize written : 'n' :: others = text at reads
  cases reads with
  | null => exact ⟨rfl, (List.cons.inj written).2⟩
  | number isNumber =>
      obtain ⟨first, after, rfl, isFirst⟩ := isNumber.head
      obtain ⟨rfl, _⟩ := List.cons.inj written
      simp at isFirst
  | _ => simp at written

theorem Reads.not_null
    (reads : Reads isBlank text datum rest)
    (notNull : text.head? ≠ some 'n') : datum ≠ .null := by
  rintro rfl
  cases reads
  simp at notNull

/-- Only null and strings are read where a string or null has to be. -/
theorem yields_optionalStringValue
    (gap : Gap isBlank before text)
    (reads : Reads isBlank text datum rest) :
    Yields optionalStringValue before (datum.optionalText?.map (·, rest)) := by
  obtain ⟨first, others, rfl, notBlank, _⟩ := reads.head
  rw [optionalStringValue]
  refine (yields_afterBlanks_cons gap notBlank).bind ?_
  by_cases isNull : first = 'n'
  · subst isNull
    obtain ⟨rfl, rfl⟩ := reads.eq_null
    refine (yields_skip 'n' _).bind ((yields_word "ull".toList rest).bind ?_)
    exact yields_pure none rest
  · have otherwise : datum.optionalText? = datum.text?.map some := by
      rw [Datum.optionalText?]
      exact reads.not_null (by simpa using isNull)
    rw [otherwise]
    split
    · next same => exact absurd (Option.some.inj same) isNull
    · exact (yields_stringValue (.none _) reads).map some

end

end Json
end ErrorTemplates
