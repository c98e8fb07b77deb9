import ErrorTemplates.Proofs.Json.Grammar

/-!
# What readers make of the grammar

A reader is determined by the text before it: where the text stands only matters for the place of
a fault. So a reader has a result for each text, which is what it has read with the text that it
leaves, or nothing. For texts of the grammar the results follow from what the texts stand for.
-/

namespace ErrorTemplates
namespace Json

/-! ## Results -/

/-- What a reader has read and the text that it leaves, unless it found a fault. -/
def left? {α : Type} : EStateM.Result Fault Cursor α -> Option (α × List Char)
  | .ok value cursor => some (value, cursor.rest)
  | .error _ _ => none

/-- The reader has this result wherever the text stands. -/
def Yields {α : Type} (reader : Reader α) (text : List Char) (result : Option (α × List Char)) :
    Prop :=
  ∀ position, left? (reader { rest := text, position }) = result

section
variable {α β : Type} {reader : Reader α} {next : α -> Reader β} {text rest : List Char}
variable {value : α} {result : Option (β × List Char)}

theorem yields_pure (value : α) (text : List Char) :
    Yields (pure value : Reader α) text (some (value, text)) :=
  fun _ => rfl

theorem yields_failHere (cause : Cause) (text : List Char) :
    Yields (failHere cause : Reader α) text none :=
  fun _ => rfl

theorem yields_failAfter (character : Char) (cause : Cause) (text : List Char) :
    Yields (failAfter character cause : Reader α) text none :=
  fun _ => rfl

/-- What follows goes on with the text that is left. -/
theorem Yields.bind
    (first : Yields reader text (some (value, rest)))
    (followed : Yields (next value) rest result) : Yields (reader >>= next) text result := by
  intro position
  have firstHere := first position
  change left? (EStateM.bind reader next _) = result
  rw [EStateM.bind]
  cases ended : reader { rest := text, position } with
  | ok found cursor =>
      rw [ended] at firstHere
      obtain ⟨rfl, rfl⟩ := Prod.mk.inj (Option.some.inj firstHere)
      exact followed cursor.position
  | error fault cursor =>
      rw [ended] at firstHere
      exact absurd firstHere (by simp [left?])

/-- A fault is passed on. -/
theorem Yields.bind_none (first : Yields reader text none) :
    Yields (reader >>= next) text none := by
  intro position
  have firstHere := first position
  change left? (EStateM.bind reader next _) = none
  rw [EStateM.bind]
  cases ended : reader { rest := text, position } with
  | ok found cursor => simp [ended, left?] at firstHere
  | error fault cursor => rfl

/-- What always fails fails after anything. -/
theorem yields_bind_fails
    (reader : Reader α)
    (fails : ∀ value rest, Yields (next value) rest none) :
    Yields (reader >>= next) text none := by
  intro position
  change left? (EStateM.bind reader next _) = none
  rw [EStateM.bind]
  cases reader { rest := text, position } with
  | ok found cursor => exact fails found cursor.rest cursor.position
  | error fault cursor => rfl

/-- The result of a reader decides how the readers after it end. -/
theorem Yields.bind_option
    {found : Option α}
    {continued : α -> Option (β × List Char)}
    (first : Yields reader text (found.map (·, rest)))
    (followed : ∀ value, found = some value -> Yields (next value) rest (continued value)) :
    Yields (reader >>= next) text (found.bind continued) := by
  cases isFound : found with
  | none =>
      rw [isFound] at first
      exact first.bind_none
  | some value =>
      rw [isFound] at first
      exact first.bind (followed value isFound)

theorem Yields.map
    {found : Option α}
    (first : Yields reader text (found.map (·, rest)))
    (change : α -> β) : Yields (change <$> reader) text ((found.map change).map (·, rest)) := by
  have mapped : change <$> reader = reader >>= fun value => pure (change value) := rfl
  have same : (found.map change).map (·, rest) =
      found.bind fun value => some (change value, rest) := by
    cases found <;> rfl
  rw [mapped, same]
  exact first.bind_option fun value _ => yields_pure _ _

end

/-! ## Characters and blanks -/

section
variable {text rest : List Char}

theorem yields_peek? (text : List Char) : Yields peek? text (some (text.head?, text)) :=
  fun _ => rfl

theorem yields_next? (character : Char) (rest : List Char) :
    Yields next? (character :: rest) (some (some character, rest)) :=
  fun _ => rfl

theorem yields_skip (character : Char) (rest : List Char) :
    Yields skip (character :: rest) (some ((), rest)) :=
  fun _ => rfl

theorem yields_needCharacter (character : Char) (rest : List Char) :
    Yields needCharacter (character :: rest) (some (character, rest)) :=
  fun _ => rfl

theorem yields_word (expected rest : List Char) :
    Yields (word expected) (expected ++ rest) (some ((), rest)) := by
  induction expected with
  | nil => exact yields_pure _ _
  | cons character others inductionHypothesis =>
      refine (yields_next? character (others ++ rest)).bind ?_
      simpa using inductionHypothesis

/-- The text does not begin with a blank. -/
def Unblank (text : List Char) : Prop := ∀ character ∈ text.head?, isBlank character = false

theorem unblank_cons {character : Char} (notBlank : isBlank character = false) :
    Unblank (character :: rest) := by
  simpa [Unblank] using notBlank

theorem Gap.length_le {blank : Char -> Bool} (gap : Gap blank text rest) :
    rest.length ≤ text.length := by
  induction gap with
  | none => exact Nat.le_refl _
  | more _ _ inductionHypothesis => exact Nat.le_succ_of_le inductionHypothesis

/-- All blanks up to a text that begins with none are passed. -/
theorem yields_afterBlanks
    (gap : Gap isBlank text rest)
    (unblank : Unblank rest) : Yields afterBlanks text (some (rest.head?, rest)) := by
  have dropped : text.drop (text.takeWhile isBlank).length = rest := by
    induction gap with
    | none rest =>
        cases rest with
        | nil => rfl
        | cons character others =>
            have notBlank : isBlank character = false := by simpa [Unblank] using unblank
            simp [notBlank]
    | more blank _ inductionHypothesis =>
        simpa [blank] using inductionHypothesis unblank
  intro position
  have ended : left? (afterBlanks { rest := text, position }) =
      some ((text.drop (text.takeWhile isBlank).length).head?,
        text.drop (text.takeWhile isBlank).length) := rfl
  rw [ended, dropped]

/-- Blanks before the next character are passed. -/
theorem yields_afterBlanks_cons
    {character : Char}
    (gap : Gap isBlank text (character :: rest))
    (notBlank : isBlank character = false) :
    Yields afterBlanks text (some (some character, character :: rest)) :=
  yields_afterBlanks gap (unblank_cons notBlank)

end

/-! ## Strings -/

/-- The characters that letters are, unless there are halves of characters among them. -/
def characters? : List Letter -> Option (List Char)
  | [] => some []
  | .character value :: others => (characters? others).map (value :: ·)
  | .surrogate _ :: _ => none

/-- The text that letters make up, unless there are halves of characters among them. -/
def text? (found : List Letter) : Option String := (characters? found).map String.ofList

theorem characters?_eq_some {found : List Letter} {characters : List Char} :
    characters? found = some characters ↔ found = characters.map .character := by
  induction found generalizing characters with
  | nil => simp [characters?, eq_comm]
  | cons letter others inductionHypothesis =>
      cases letter with
      | character value =>
          simp only [characters?, Option.map_eq_some_iff, inductionHypothesis]
          constructor
          · rintro ⟨rest, rfl, rfl⟩
            rfl
          · intro same
            cases characters with
            | nil => simp at same
            | cons first rest =>
                obtain ⟨sameFirst, rfl⟩ := List.cons.inj same
                exact ⟨rest, rfl, congrArg (· :: rest) (Letter.character.inj sameFirst)⟩
      | surrogate unit =>
          refine iff_of_false (by simp [characters?]) fun same => ?_
          cases characters <;> simp at same

/-- Letters make up the text that they are the letters of. -/
theorem text?_eq_some {found : List Letter} {text : String} :
    text? found = some text ↔ found = letters text := by
  rw [text?, Option.map_eq_some_iff, letters]
  simp only [characters?_eq_some]
  constructor
  · rintro ⟨characters, rfl, rfl⟩
    rw [String.toList_ofList]
  · rintro rfl
    exact ⟨text.toList, rfl, String.ofList_toList⟩

@[simp] theorem text?_letters (text : String) : text? (letters text) = some text :=
  text?_eq_some.mpr rfl

section
variable {text rest : List Char} {found others : List Letter} {limit : Nat}

theorem yields_fourDigits
    {digits : List Char}
    {unit : Nat}
    (isUnit : codeUnit? digits = some unit)
    (text : List Char) : Yields fourDigits (digits ++ text) (some (unit, text)) := by
  unfold codeUnit? at isUnit
  split at isUnit
  · next one two three four =>
    simp only [Option.bind_eq_bind, Option.bind_eq_some_iff, Option.pure_def,
      Option.some.injEq] at isUnit
    obtain ⟨first, isFirst, second, isSecond, third, isThird, fourth, isFourth, rfl⟩ := isUnit
    have values : [one, two, three, four].mapM hexValue? = some [first, second, third, fourth] := by
      simp [isFirst, isSecond, isThird, isFourth]
    have looks (cursor : Cursor) : (get : Reader Cursor) cursor = .ok cursor cursor := rfl
    intro position
    simp [fourDigits, values, bind, EStateM.bind, looks]
    rfl
  · simp at isUnit

theorem yields_cons
    (value : Char)
    (followed : Yields (stringRest limit) text ((characters? others).map (·, rest))) :
    Yields (do return value :: (← stringRest limit)) text
      ((characters? (.character value :: others)).map (·, rest)) :=
  followed.map (value :: ·)

theorem yields_stringRest_quote (limit : Nat) (rest : List Char) :
    Yields (stringRest (limit + 1)) ('"' :: rest) (some ([], rest)) :=
  fun _ => rfl

theorem yields_stringRest_plain
    {value : Char}
    (notControl : 0x20 ≤ value.toNat)
    (notQuote : value ≠ '"')
    (notBackslash : value ≠ '\\')
    (followed : Yields (stringRest limit) text ((characters? others).map (·, rest))) :
    Yields (stringRest (limit + 1)) (value :: text)
      ((characters? (.character value :: others)).map (·, rest)) := by
  rw [stringRest]
  refine (yields_next? value text).bind ?_
  split
  · contradiction
  · next isQuote => exact absurd (Option.some.inj isQuote) notQuote
  · next isBackslash => exact absurd (Option.some.inj isBackslash) notBackslash
  · next same =>
      obtain rfl := Option.some.inj same
      rw [if_neg (Nat.not_lt.mpr notControl)]
      exact yields_cons value followed

/-- A letter other than that of codes is looked up. -/
theorem yields_stringRest_short
    {letter value : Char}
    (stands : escaped? letter = some value)
    (followed : Yields (stringRest limit) text ((characters? others).map (·, rest))) :
    Yields (stringRest (limit + 1)) ('\\' :: letter :: text)
      ((characters? (.character value :: others)).map (·, rest)) := by
  have notCode : letter ≠ 'u' := by
    rintro rfl
    simp [escaped?] at stands
  rw [stringRest]
  refine (yields_next? '\\' (letter :: text)).bind ?_
  refine (yields_needCharacter letter text).bind ?_
  rw [if_neg notCode, stands]
  exact (yields_pure value text).bind (yields_cons value followed)

theorem yields_stringRest_code
    {value : Char}
    {after : List Char}
    (yields : Yields unicodeEscape text (some (value, after)))
    (followed : Yields (stringRest limit) after ((characters? others).map (·, rest))) :
    Yields (stringRest (limit + 1)) ('\\' :: 'u' :: text)
      ((characters? (.character value :: others)).map (·, rest)) := by
  rw [stringRest]
  refine (yields_next? '\\' ('u' :: text)).bind ?_
  refine (yields_needCharacter 'u' text).bind ?_
  exact yields.bind (yields_cons value followed)

theorem yields_stringRest_lone (yields : Yields unicodeEscape text none) :
    Yields (stringRest (limit + 1)) ('\\' :: 'u' :: text) none := by
  rw [stringRest]
  refine (yields_next? '\\' ('u' :: text)).bind ?_
  refine (yields_needCharacter 'u' text).bind ?_
  exact yields.bind_none

theorem yields_unicodeEscape
    {digits : List Char}
    {unit : Nat}
    (isUnit : codeUnit? digits = some unit)
    (notHigh : ¬isHigh unit)
    (notLow : ¬isLow unit)
    (text : List Char) :
    Yields unicodeEscape (digits ++ text) (some (Char.ofNat unit, text)) := by
  refine (yields_fourDigits isUnit text).bind ?_
  rw [isLow] at notLow
  rw [isHigh] at notHigh
  rw [if_neg (by simpa using notLow), if_neg (by simpa using notHigh)]
  exact yields_pure _ text

theorem yields_needPairCharacter (character : Char) (text : List Char) :
    Yields (needPairCharacter character) (character :: text) (some ((), text)) := by
  refine (yields_needCharacter character text).bind ?_
  rw [if_neg (by simp)]
  exact yields_pure _ _

theorem yields_needPairCharacter_other
    {expected character : Char}
    (isOther : character ≠ expected)
    (text : List Char) : Yields (needPairCharacter expected) (character :: text) none := by
  refine (yields_needCharacter character text).bind ?_
  rw [if_pos (by simpa using isOther)]
  exact yields_failAfter _ _ _

theorem yields_unicodeEscape_pair
    {first second : List Char}
    {high low : Nat}
    (firstUnit : codeUnit? first = some high)
    (secondUnit : codeUnit? second = some low)
    (highFirst : isHigh high)
    (lowSecond : isLow low)
    (text : List Char) :
    Yields unicodeEscape (first ++ '\\' :: 'u' :: (second ++ text))
      (some (Char.ofNat ((high - 0xd800) * 0x400 + (low - 0xdc00) + 0x10000), text)) := by
  rw [isHigh] at highFirst
  rw [isLow] at lowSecond
  refine (yields_fourDigits firstUnit _).bind ?_
  rw [if_neg (by simp; omega), if_pos (by simpa using highFirst)]
  refine (yields_needPairCharacter '\\' _).bind ?_
  refine (yields_needPairCharacter 'u' _).bind ?_
  refine (yields_fourDigits secondUnit text).bind ?_
  rw [if_neg (by simp; omega)]
  exact yields_pure _ text

/-- The code of something else than a second half is a fault after a first half. -/
theorem yields_secondHalf_none
    {digits : List Char}
    {unit : Nat}
    {next : Nat -> Reader Char}
    (isUnit : codeUnit? digits = some unit)
    (notLow : ¬isLow unit) :
    Yields (do
      needPairCharacter '\\'
      needPairCharacter 'u'
      let low ← fourDigits
      if low < 0xdc00 || 0xdfff < low then failHere .loneSurrogate
      next low) ('\\' :: 'u' :: (digits ++ text)) none := by
  rw [isLow] at notLow
  refine (yields_needPairCharacter '\\' _).bind ?_
  refine (yields_needPairCharacter 'u' _).bind ?_
  refine (yields_fourDigits isUnit text).bind ?_
  rw [if_pos (by simp; omega)]
  exact (yields_failHere _ _).bind_none

/-- Half of a character is a fault unless the other half follows. -/
theorem yields_unicodeEscape_lone
    {digits : List Char}
    {unit : Nat}
    (isUnit : codeUnit? digits = some unit)
    (isHalf : isHigh unit ∨ isLow unit)
    (notPaired : isHigh unit -> ¬BeginsLow text)
    (next : Letters text others rest) : Yields unicodeEscape (digits ++ text) none := by
  refine (yields_fourDigits isUnit text).bind ?_
  rcases isHalf with high | low
  · have isHighUnit := high
    rw [isHigh] at high
    rw [if_neg (by simp; omega), if_pos (by simpa using high)]
    have notLowUnit {second after : List Char} {low : Nat}
        (secondUnit : codeUnit? second = some low)
        (text_eq : text = '\\' :: 'u' :: (second ++ after)) : ¬isLow low :=
      fun low => notPaired isHighUnit ⟨second, _, after, text_eq, secondUnit, low⟩
    -- What follows is no code, or a code of something else than a second half.
    cases next with
    | quote => exact (yields_needPairCharacter_other (by decide) _).bind_none
    | plain _ _ notBackslash => exact (yields_needPairCharacter_other notBackslash _).bind_none
    | @short letter _ _ _ _ stands =>
        refine (yields_needPairCharacter '\\' _).bind ?_
        refine (yields_needPairCharacter_other ?_ _).bind_none
        rintro rfl
        simp [escaped?] at stands
    | code secondUnit => exact yields_secondHalf_none secondUnit (notLowUnit secondUnit rfl)
    | pair secondUnit => exact yields_secondHalf_none secondUnit (notLowUnit secondUnit rfl)
    | lone secondUnit => exact yields_secondHalf_none secondUnit (notLowUnit secondUnit rfl)
  · rw [isLow] at low
    rw [if_pos (by simpa using low)]
    exact yields_failHere _ _

theorem yields_stringRest
    (isString : Letters text found rest)
    (enough : text.length ≤ limit) :
    Yields (stringRest limit) text ((characters? found).map (·, rest)) := by
  induction isString generalizing limit with
  | quote rest =>
      cases limit with
      | zero => simp at enough
      | succ limit => exact yields_stringRest_quote limit rest
  | plain notControl notQuote notBackslash next inductionHypothesis =>
      cases limit with
      | zero => simp at enough
      | succ limit =>
          exact yields_stringRest_plain notControl notQuote notBackslash
            (inductionHypothesis (by simpa using enough))
  | short stands next inductionHypothesis =>
      cases limit with
      | zero => simp at enough
      | succ limit =>
          refine yields_stringRest_short stands (inductionHypothesis ?_)
          simp only [List.length_cons] at enough
          omega
  | code isUnit notHigh notLow next inductionHypothesis =>
      cases limit with
      | zero => simp at enough
      | succ limit =>
          refine yields_stringRest_code (yields_unicodeEscape isUnit notHigh notLow _)
            (inductionHypothesis ?_)
          simp only [List.length_cons, List.length_append] at enough
          omega
  | pair firstUnit secondUnit highFirst lowSecond next inductionHypothesis =>
      cases limit with
      | zero => simp at enough
      | succ limit =>
          refine yields_stringRest_code
            (yields_unicodeEscape_pair firstUnit secondUnit highFirst lowSecond _)
            (inductionHypothesis ?_)
          simp only [List.length_cons, List.length_append] at enough
          omega
  | lone isUnit isHalf notPaired next inductionHypothesis =>
      cases limit with
      | zero => simp at enough
      | succ limit =>
          exact yields_stringRest_lone (yields_unicodeEscape_lone isUnit isHalf notPaired next)

/-- A string is read unless there are halves of characters in it. -/
theorem yields_string (isString : Letters text found rest) :
    Yields string ('"' :: text) ((text? found).map (·, rest)) := by
  have read : Yields (String.ofList <$> stringRest (text.length + 1)) text
      ((text? found).map (·, rest)) :=
    (yields_stringRest isString (Nat.le_succ _)).map String.ofList
  exact (yields_skip '"' text).bind fun position => read position

/-! ## Passing strings -/

theorem yields_passStringRest_escape
    {letter value : Char}
    (stands : escaped? letter = some value)
    (followed : Yields (passStringRest limit) text (some ((), rest))) :
    Yields (passStringRest (limit + 1)) ('\\' :: letter :: text) (some ((), rest)) := by
  have notCode : letter ≠ 'u' := by
    rintro rfl
    simp [escaped?] at stands
  rw [passStringRest]
  refine (yields_peek? _).bind ?_
  refine (yields_skip '\\' (letter :: text)).bind ?_
  refine (yields_needCharacter letter text).bind ?_
  rw [if_neg notCode, stands]
  exact followed

theorem yields_passStringRest_code
    {digits : List Char}
    {unit : Nat}
    (isUnit : codeUnit? digits = some unit)
    (followed : Yields (passStringRest limit) text (some ((), rest))) :
    Yields (passStringRest (limit + 1)) ('\\' :: 'u' :: (digits ++ text)) (some ((), rest)) := by
  rw [passStringRest]
  refine (yields_peek? _).bind ?_
  refine (yields_skip '\\' _).bind ?_
  refine (yields_needCharacter 'u' _).bind ?_
  exact (yields_fourDigits isUnit text).bind followed

theorem yields_passStringRest_plain
    {value : Char}
    (notControl : 0x20 ≤ value.toNat)
    (notQuote : value ≠ '"')
    (notBackslash : value ≠ '\\')
    (followed : Yields (passStringRest limit) text (some ((), rest))) :
    Yields (passStringRest (limit + 1)) (value :: text) (some ((), rest)) := by
  rw [passStringRest]
  refine (yields_peek? _).bind ?_
  split
  · contradiction
  · next isQuote => exact absurd (Option.some.inj isQuote) notQuote
  · next isBackslash => exact absurd (Option.some.inj isBackslash) notBackslash
  · next same =>
      obtain rfl := Option.some.inj same
      rw [if_neg (Nat.not_lt.mpr notControl)]
      exact (yields_skip value text).bind followed

/-- A string that nobody asked for is passed, also with halves of characters. -/
theorem yields_passStringRest
    (isString : Letters text found rest)
    (enough : text.length ≤ limit) : Yields (passStringRest limit) text (some ((), rest)) := by
  induction isString generalizing limit with
  | quote rest =>
      cases limit with
      | zero => simp at enough
      | succ limit => exact fun _ => rfl
  | plain notControl notQuote notBackslash next inductionHypothesis =>
      cases limit with
      | zero => simp at enough
      | succ limit =>
          exact yields_passStringRest_plain notControl notQuote notBackslash
            (inductionHypothesis (by simpa using enough))
  | short stands next inductionHypothesis =>
      cases limit with
      | zero => simp at enough
      | succ limit =>
          refine yields_passStringRest_escape stands (inductionHypothesis ?_)
          simp only [List.length_cons] at enough
          omega
  | code isUnit notHigh notLow next inductionHypothesis =>
      cases limit with
      | zero => simp at enough
      | succ limit =>
          refine yields_passStringRest_code isUnit (inductionHypothesis ?_)
          simp only [List.length_cons, List.length_append] at enough
          omega
  | pair firstUnit secondUnit highFirst lowSecond next inductionHypothesis =>
      simp only [List.length_cons, List.length_append] at enough
      obtain ⟨limit, rfl⟩ : ∃ fewer, limit = fewer + 1 + 1 := ⟨limit - 2, by omega⟩
      exact yields_passStringRest_code firstUnit
        (yields_passStringRest_code secondUnit (inductionHypothesis (by omega)))
  | lone isUnit isHalf notPaired next inductionHypothesis =>
      cases limit with
      | zero => simp at enough
      | succ limit =>
          refine yields_passStringRest_code isUnit (inductionHypothesis ?_)
          simp only [List.length_cons, List.length_append] at enough
          omega

theorem yields_passString
    (isString : Letters text found rest)
    (enough : text.length ≤ limit) :
    Yields (passString limit) ('"' :: text) (some ((), rest)) :=
  (yields_skip '"' text).bind (yields_passStringRest isString enough)

end

end Json
end ErrorTemplates
