import ErrorTemplates.Program.Token.Gap
import ErrorTemplates.Text.Location
import Mathlib.Algebra.Ring.Nat

/-!
# Positions on lines

The text before a position ends with the beginning of a line. A location counts the columns of
that beginning and shows the line from its first character on.
-/

namespace ErrorTemplates
namespace Text

open Program (bytes)

/-- Some text is the beginning of a line, up to a position with a text before it and after it: a
line ends just before it, unless the whole text begins there, and no line ends within it. -/
structure BeginsLine (earlier head after : List Char) : Prop where
  afterEnd : earlier = [] ∨
    ∃ front last, earlier = front ++ [last] ∧ endsLine last (head ++ after) = true
  unbroken : ∀ front character behind, head = front ++ character :: behind ->
    endsLine character (behind ++ after) = false

namespace BeginsLine

variable {earlier head after : List Char} {character : Char}

theorem atStart (text : List Char) : BeginsLine [] [] text where
  afterEnd := .inl rfl
  unbroken := by simp

/-- A line begins after a character that ends one. -/
theorem afterLineEnd
    (before : List Char)
    (ends : endsLine character after = true) : BeginsLine (before ++ [character]) [] after where
  afterEnd := .inr ⟨before, character, rfl, ends⟩
  unbroken := by simp

/-- A line goes on with a character that does not end it. -/
theorem extend
    (begins : BeginsLine earlier head (character :: after))
    (goesOn : endsLine character after = false) :
    BeginsLine earlier (head ++ [character]) after where
  afterEnd := by simpa using begins.afterEnd
  unbroken := by
    intro front other behind head_eq
    rcases List.eq_nil_or_concat behind with rfl | ⟨between, last, rfl⟩
    · obtain ⟨rfl, rfl⟩ := List.append_singleton_inj.mp head_eq
      exact goesOn
    · rw [List.concat_eq_append, ← List.cons_append, ← List.append_assoc] at head_eq
      obtain ⟨rfl, rfl⟩ := List.append_singleton_inj.mp head_eq
      simpa using begins.unbroken front other between rfl

/-- Before a character, the beginning of a line has no line feed. -/
theorem noBreak
    (begins : BeginsLine earlier head after)
    (nonempty : after ≠ []) : '\n' ∉ head := by
  intro present
  obtain ⟨front, behind, head_eq⟩ := List.append_of_mem present
  have goesOn := begins.unbroken front '\n' behind head_eq
  cases following_eq : behind ++ after with
  | nil => exact nonempty (List.append_eq_nil_iff.mp following_eq).2
  | cons next rest => simp [following_eq, endsLine] at goesOn

end BeginsLine

/-! ## The way to a position -/

/-- The columns by which a text moves a position on its line. -/
def columnsPassed (text : List Char) : Nat := (text.map columnStep).sum

/-- A cursor moves over a text one character after the other. -/
theorem Cursor.moveBy_bytes_cons
    (cursor : Cursor)
    (character : Char)
    (before after : List Char) :
    cursor.moveBy (bytes (character :: before)) (character :: (before ++ after)) =
      (cursor.advance character (before ++ after)).moveBy (bytes before) (before ++ after) := by
  have size_pos := Char.utf8Size_pos character
  have bytes_eq : bytes (character :: before) =
      (character.utf8Size - 1 + bytes before) + 1 := by
    rw [Program.bytes_cons]
    omega
  have left_eq : (character.utf8Size - 1 + bytes before) + 1 - character.utf8Size =
      bytes before := by
    omega
  rw [bytes_eq, Cursor.moveBy, left_eq]

/-- A cursor has passed the beginning of a line. -/
structure Cursor.Passed (cursor : Cursor) (earlier head after : List Char) : Prop where
  begins : BeginsLine earlier head after
  passed_eq : cursor.passed = columnsPassed head
  fromLineStart_eq : cursor.fromLineStart = head ++ after

namespace Cursor.Passed

variable {cursor : Cursor} {earlier head after : List Char}

/-- A character goes on with the line or begins another one. -/
theorem advance
    {character : Char}
    (reached : cursor.Passed earlier head (character :: after)) :
    ∃ further others, earlier ++ head ++ [character] = further ++ others ∧
      (cursor.advance character after).Passed further others after := by
  cases ends : endsLine character after with
  | true =>
      refine ⟨earlier ++ head ++ [character], [], (List.append_nil _).symm,
        .afterLineEnd _ ends, ?_, ?_⟩ <;> simp [Cursor.advance, ends, columnsPassed]
  | false =>
      refine ⟨earlier, head ++ [character], List.append_assoc _ _ _,
        reached.begins.extend ends, ?_, ?_⟩
      · simp [Cursor.advance, ends, columnsPassed, reached.passed_eq]
      · simp [Cursor.advance, ends, reached.fromLineStart_eq]

/-- Moving over a text ends on the line on which that text ends. -/
theorem moveBy
    {before : List Char}
    (reached : cursor.Passed earlier head (before ++ after)) :
    ∃ further others, earlier ++ head ++ before = further ++ others ∧
      (cursor.moveBy (bytes before) (before ++ after)).Passed further others after := by
  induction before generalizing cursor earlier head with
  | nil =>
      refine ⟨earlier, head, List.append_nil _, ?_⟩
      cases after <;> exact reached
  | cons character before inductionHypothesis =>
      obtain ⟨further, others, split_eq, advanced⟩ := reached.advance
      obtain ⟨last, rest, whole_eq, moved⟩ := inductionHypothesis advanced
      refine ⟨last, rest, ?_, ?_⟩
      · rw [← whole_eq, ← split_eq, List.append_assoc _ [character], List.singleton_append]
      · rw [List.cons_append, moveBy_bytes_cons]
        exact moved

end Cursor.Passed

/-- A position is shown with the columns of the beginning of its line, and with that line up to
the next line feed. -/
theorem exists_locate_eq (file : String) (before after : List Char) :
    ∃ earlier head, before = earlier ++ head ∧ BeginsLine earlier head after ∧
      (locate file (before ++ after) (bytes before)).column = columnsPassed head + 1 ∧
      (locate file (before ++ after) (bytes before)).sourceLine.toList =
        (head ++ after).takeWhile (fun character => character != '\n') := by
  have starts : (Cursor.start (before ++ after)).Passed [] [] (before ++ after) :=
    ⟨.atStart _, rfl, rfl⟩
  obtain ⟨earlier, head, split_eq, moved⟩ := starts.moveBy
  refine ⟨earlier, head, split_eq, moved.begins, ?_, ?_⟩
  · rw [locate, moved.passed_eq]
  · rw [locate, moved.fromLineStart_eq, String.toList_ofList]

end Text
end ErrorTemplates
