import ErrorTemplates.Text.DisplayWidth

/-!
# Measures

How many columns a text takes where it is shown is no sum over its characters: joined emoji,
characters with a selector of their form after them and letters that are drawn as one letter take
fewer columns than the same characters take alone, or more. So a report is laid out by a measure
of whole texts, of which only little has to be known.
-/

namespace ErrorTemplates
namespace Text

/-- A character that is printed as it is in seven bits. -/
def isPrintable (character : Char) : Bool :=
  0x20 ≤ character.toNat && character.toNat < 0x7f

/-- How many columns texts take where they are shown. -/
class Measure where
  /-- The columns of a text. -/
  width : String -> Nat
  /-- Printable characters take a column each. -/
  width_of_isPrintable : ∀ text : String, text.toList.all isPrintable = true ->
    width text = text.length

/-! ## Texts without joined characters -/

/-- The columns of a line of text in which nothing is drawn together. A control character takes one
column, and a carriage return before a line feed shares the column of the line feed. -/
def columns : List Char -> Nat
  | [] => 0
  | [character] => displayWidth character
  | first :: second :: rest =>
      if first = '\r' && second = '\n' then columns (second :: rest)
      else displayWidth first + columns (second :: rest)

theorem displayWidth_of_isPrintable
    {character : Char}
    (printable : isPrintable character = true) : displayWidth character = 1 := by
  obtain ⟨_, small⟩ : 0x20 ≤ character.toNat ∧ character.toNat < 0x7f := by
    simpa [isPrintable] using printable
  rw [displayWidth, if_pos (by omega)]

/-- A line of printable characters takes a column for each of them. -/
theorem columns_of_isPrintable
    {line : List Char}
    (printable : line.all isPrintable = true) : columns line = line.length := by
  fun_induction columns line with
  | case1 => rfl
  | case2 character =>
      exact displayWidth_of_isPrintable (by simpa using printable)
  | case3 first second rest isBreak inductionHypothesis =>
      obtain ⟨rfl, _⟩ : first = '\r' ∧ second = '\n' := by simpa using isBreak
      simp [show isPrintable '\r' = false by decide] at printable
  | case4 first second rest notBreak inductionHypothesis =>
      rw [List.all_cons, Bool.and_eq_true] at printable
      rw [displayWidth_of_isPrintable printable.1, inductionHypothesis printable.2]
      exact Nat.add_comm 1 _

/-- The measure of texts in which nothing is drawn together. -/
instance : Measure where
  width text := columns text.toList
  width_of_isPrintable _ printable :=
    (columns_of_isPrintable printable).trans String.length_toList

end Text
end ErrorTemplates
