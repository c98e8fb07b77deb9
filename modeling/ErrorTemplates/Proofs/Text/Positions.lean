import ErrorTemplates.Proofs.Text.Lines

/-!
# Positions in order

Moving on in a text never leads back: the line that is reached is a later one or the same, and on
the same line no columns are lost. Every line end that is passed leads to the next line. So what is
shown of a position tells how many line ends are before it, and positions are shown in their order.
-/

namespace ErrorTemplates
namespace Text

open Program (bytes)

/-! ## The way on -/

namespace Cursor

/-- A cursor has not passed another one: it is on an earlier line, or on the same one and not
further on it. -/
def UpTo (cursor other : Cursor) : Prop :=
  cursor.line < other.line ∨
    cursor.line = other.line ∧ cursor.fromLineStart = other.fromLineStart ∧
      cursor.passed ≤ other.passed

theorem UpTo.refl (cursor : Cursor) : cursor.UpTo cursor :=
  .inr ⟨rfl, rfl, Nat.le_refl _⟩

theorem UpTo.trans
    {cursor other third : Cursor}
    (upTo : cursor.UpTo other)
    (further : other.UpTo third) : cursor.UpTo third := by
  rcases upTo with above | ⟨sameLine, sameStart, le⟩
  · rcases further with moreAbove | ⟨sameLine, _⟩
    · exact .inl (Nat.lt_trans above moreAbove)
    · exact .inl (sameLine ▸ above)
  · rcases further with above | ⟨sameLineToo, sameStartToo, leToo⟩
    · exact .inl (sameLine ▸ above)
    · exact .inr ⟨sameLine.trans sameLineToo, sameStart.trans sameStartToo,
        Nat.le_trans le leToo⟩

theorem upTo_advance (cursor : Cursor) (character : Char) (following : List Char) :
    cursor.UpTo (cursor.advance character following) := by
  rw [advance]
  split
  · exact .inl (Nat.lt_succ_self _)
  · exact .inr ⟨rfl, rfl, Nat.le_add_right _ _⟩

/-- Moving never leads back. -/
theorem upTo_moveBy (cursor : Cursor) (position : Nat) (text : List Char) :
    cursor.UpTo (cursor.moveBy position text) := by
  fun_induction moveBy cursor position text with
  | case1 cursor => exact .refl cursor
  | case2 cursor => exact .refl cursor
  | case3 cursor position character following inductionHypothesis =>
      exact (upTo_advance cursor character following).trans inductionHypothesis

/-- Moving further leads further. -/
theorem moveBy_upTo_moveBy
    {position further : Nat}
    (le : position ≤ further)
    (cursor : Cursor)
    (text : List Char) : (cursor.moveBy position text).UpTo (cursor.moveBy further text) := by
  induction text generalizing cursor position further with
  | nil => cases position <;> cases further <;> exact .refl cursor
  | cons character following inductionHypothesis =>
      cases position with
      | zero => exact upTo_moveBy cursor further _
      | succ position =>
          cases further with
          | zero => exact absurd le (Nat.not_succ_le_zero position)
          | succ further =>
              exact inductionHypothesis (Nat.sub_le_sub_right le _) _

end Cursor

/-! ## Line ends -/

/-- The line ends in a text that is followed by another one. -/
def lineEnds : (text following : List Char) -> Nat
  | [], _ => 0
  | character :: rest, following =>
      (if endsLine character (rest ++ following) then 1 else 0) + lineEnds rest following

theorem eq_or_eq_of_endsLine
    {character : Char}
    {following : List Char}
    (ends : endsLine character following = true) : character = '\n' ∨ character = '\r' := by
  cases following with
  | nil => simp [endsLine] at ends
  | cons next rest =>
      rcases Bool.or_eq_true_iff.mp ends with isFeed | isReturn
      · exact .inl (eq_of_beq isFeed)
      · exact .inr (eq_of_beq (Bool.and_eq_true_iff.mp isReturn).1)

theorem columnStep_of_endsLine
    {character : Char}
    {following : List Char}
    (ends : endsLine character following = true) : columnStep character = 1 := by
  rcases eq_or_eq_of_endsLine ends with rfl | rfl <;> rfl

/-- Line ends take columns, so a text without columns has none. -/
theorem lineEnds_eq_zero
    {text : List Char}
    (noColumns : columnsPassed text = 0)
    (following : List Char) : lineEnds text following = 0 := by
  induction text with
  | nil => rfl
  | cons character rest inductionHypothesis =>
      rw [columnsPassed, List.map_cons, List.sum_cons, Nat.add_eq_zero_iff] at noColumns
      obtain ⟨noColumn, noMoreColumns⟩ := noColumns
      have goesOn : endsLine character (rest ++ following) = false := by
        by_contra ends
        rw [Bool.not_eq_false] at ends
        simp [columnStep_of_endsLine ends] at noColumn
      rw [lineEnds, goesOn, inductionHypothesis noMoreColumns]
      rfl

namespace Cursor

theorem line_advance (cursor : Cursor) (character : Char) (following : List Char) :
    (cursor.advance character following).line =
      cursor.line + if endsLine character following then 1 else 0 := by
  rw [advance]
  split <;> rfl

/-- Every line end that is passed leads to the next line. -/
theorem line_moveBy_bytes (cursor : Cursor) (before after : List Char) :
    (cursor.moveBy (bytes before) (before ++ after)).line =
      cursor.line + lineEnds before after := by
  induction before generalizing cursor with
  | nil => cases after <;> rfl
  | cons character before inductionHypothesis =>
      rw [List.cons_append, moveBy_bytes_cons, inductionHypothesis, lineEnds, line_advance,
        Nat.add_assoc]

/-- There are no more lines than characters. -/
theorem line_moveBy_le (cursor : Cursor) (position : Nat) (text : List Char) :
    (cursor.moveBy position text).line ≤ cursor.line + text.length := by
  fun_induction moveBy cursor position text with
  | case1 cursor => exact Nat.le_add_right _ _
  | case2 cursor => exact Nat.le_add_right _ _
  | case3 cursor position character following inductionHypothesis =>
      have step : (cursor.advance character following).line ≤ cursor.line + 1 := by
        rw [line_advance]
        split <;> omega
      rw [List.length_cons]
      omega

/-- Without line ends the columns of the text are passed, and nothing else changes. -/
theorem moveBy_bytes_of_lineEnds_eq_zero
    {before after : List Char}
    (noEnds : lineEnds before after = 0)
    (cursor : Cursor) :
    cursor.moveBy (bytes before) (before ++ after) =
      { cursor with passed := cursor.passed + columnsPassed before } := by
  induction before generalizing cursor with
  | nil => cases after <;> rfl
  | cons character before inductionHypothesis =>
      rw [lineEnds, Nat.add_eq_zero_iff] at noEnds
      obtain ⟨goesOn, noMoreEnds⟩ := noEnds
      have stays : cursor.advance character (before ++ after) =
          { cursor with passed := cursor.passed + columnStep character } := by
        rw [advance, if_neg]
        intro ends
        simp [ends] at goesOn
      rw [List.cons_append, moveBy_bytes_cons, stays, inductionHypothesis noMoreEnds,
        columnsPassed, columnsPassed, List.map_cons, List.sum_cons, Nat.add_assoc]

/-- A text is passed part by part. -/
theorem moveBy_bytes_append (cursor : Cursor) (before between after : List Char) :
    cursor.moveBy (bytes (before ++ between)) (before ++ (between ++ after)) =
      (cursor.moveBy (bytes before) (before ++ (between ++ after))).moveBy (bytes between)
        (between ++ after) := by
  induction before generalizing cursor with
  | nil => cases between <;> cases after <;> rfl
  | cons character before inductionHypothesis =>
      have first := moveBy_bytes_cons cursor character (before ++ between) after
      rw [List.append_assoc] at first
      rw [List.cons_append, List.cons_append, first, moveBy_bytes_cons, inductionHypothesis]

end Cursor

theorem lineEnds_append (text further following : List Char) :
    lineEnds (text ++ further) following =
      lineEnds text (further ++ following) + lineEnds further following := by
  induction text with
  | nil => rw [List.nil_append, lineEnds, Nat.zero_add]
  | cons character rest inductionHypothesis =>
      rw [List.cons_append, lineEnds, inductionHypothesis, lineEnds, List.append_assoc,
        Nat.add_assoc]

namespace BeginsLine

variable {earlier head after : List Char} (begins : BeginsLine earlier head after)
include begins

/-- No line ends within the beginning of a line. -/
theorem lineEnds_head : lineEnds head after = 0 := by
  have unbroken := begins.unbroken
  clear begins
  induction head with
  | nil => rfl
  | cons character rest inductionHypothesis =>
      rw [lineEnds, unbroken [] character rest rfl, inductionHypothesis]
      · rfl
      · intro front other behind rest_eq
        exact unbroken (character :: front) other behind (by rw [rest_eq, List.cons_append])

/-- The beginning of a line is shown with the line, except for a line feed at the end of the whole
text. -/
theorem prefix_or_eq :
    head <+: (head ++ after).takeWhile (fun character => character != '\n') ∨
      after = [] ∧
        head = (head ++ after).takeWhile (fun character => character != '\n') ++ ['\n'] := by
  have goesOn {text : List Char} (noBreak : '\n' ∉ text) :
      ∀ character ∈ text, (character != '\n') = true := fun character present => by
    simpa using fun isBreak : character = '\n' => noBreak (isBreak ▸ present)
  by_cases present : '\n' ∈ head
  · -- The line feed does not end a line, so nothing follows it.
    obtain ⟨front, behind, rfl, notBefore⟩ := List.eq_append_cons_of_mem present
    have ends := begins.unbroken front '\n' behind rfl
    have nothing : behind ++ after = [] := by
      cases following_eq : behind ++ after with
      | nil => rfl
      | cons next rest => simp [following_eq, endsLine] at ends
    obtain ⟨rfl, rfl⟩ := List.append_eq_nil_iff.mp nothing
    right
    rw [List.append_nil, List.takeWhile_append_of_pos (goesOn notBefore)]
    simp
  · left
    rw [List.takeWhile_append_of_pos (goesOn present)]
    exact List.prefix_append head _

end BeginsLine

/-! ## What is shown of a position -/

/-- A location shows a position with the beginning of a line before it: it counts the line ends
before that line and the columns of its beginning, and has the line up to the next line feed. The
position is on that line or at its end, unless it comes after a line feed with which the whole text
ends. -/
structure Location.Shows (location : Location) (earlier head after : List Char) : Prop where
  begins : BeginsLine earlier head after
  line_eq : location.line = 1 + lineEnds earlier (head ++ after)
  column_eq : location.column = 1 + columnsPassed head
  sourceLine_eq : location.sourceLine.toList =
    (head ++ after).takeWhile fun character => character != '\n'
  inside : head <+: location.sourceLine.toList ∨
    after = [] ∧ head = location.sourceLine.toList ++ ['\n']

/-- The location of a position shows it, unless the text is empty. -/
theorem exists_locate_shows
    {before after : List Char}
    (nonempty : before ++ after ≠ [])
    (file : String) :
    ∃ earlier head, before = earlier ++ head ∧
      (locate file (before ++ after) (bytes before)).Shows earlier head after := by
  obtain ⟨earlier, head, rfl, begins, column_eq, line_eq⟩ := exists_locate_eq file before after
  refine ⟨earlier, head, rfl, begins, ?_, by rw [column_eq, Nat.add_comm], line_eq, ?_⟩
  · rw [locate, Cursor.line_moveBy_bytes, Cursor.start, lineEnds_append, begins.lineEnds_head,
      if_neg (by simpa using nonempty), Nat.add_zero]
  · rw [line_eq]
    exact begins.prefix_or_eq

/-- An empty text has no lines. -/
theorem locate_nil (file : String) (position : Nat) :
    locate file [] position = { file, line := 0, column := 1, sourceLine := "" } := by
  cases position <;> rfl

/-- A location of a position does not come after one of a further position. If both have the same
line and the same column they are the same. -/
theorem locate_upTo
    {position further : Nat}
    (le : position ≤ further)
    (file : String)
    (text : List Char) :
    (locate file text position).line < (locate file text further).line ∨
      (locate file text position).line = (locate file text further).line ∧
        (locate file text position).sourceLine = (locate file text further).sourceLine ∧
        (locate file text position).column ≤ (locate file text further).column := by
  rcases Cursor.moveBy_upTo_moveBy le (Cursor.start text) text with
    above | ⟨sameLine, sameStart, le⟩
  · exact .inl above
  · exact .inr ⟨sameLine, by rw [locate, locate, sameStart], Nat.succ_le_succ le⟩

/-- Two positions are shown alike exactly when no character between them takes a column. -/
theorem locate_eq_locate_iff (file : String) (before between after : List Char) :
    locate file (before ++ (between ++ after)) (bytes before) =
        locate file (before ++ (between ++ after)) (bytes (before ++ between)) ↔
      columnsPassed between = 0 := by
  have moved := (Cursor.start (before ++ (between ++ after))).moveBy_bytes_append before between
    after
  generalize reached_eq : (Cursor.start (before ++ (between ++ after))).moveBy (bytes before)
    (before ++ (between ++ after)) = reached at moved
  constructor
  · intro alike
    by_cases noEnds : lineEnds between after = 0
    · rw [Cursor.moveBy_bytes_of_lineEnds_eq_zero noEnds] at moved
      have sameColumn := congrArg Location.column alike
      simpa [locate, moved, reached_eq] using sameColumn
    · have sameLine := congrArg Location.line alike
      simp only [locate, moved, reached_eq, Cursor.line_moveBy_bytes] at sameLine
      omega
  · intro noColumns
    rw [Cursor.moveBy_bytes_of_lineEnds_eq_zero (lineEnds_eq_zero noColumns after), noColumns,
      Nat.add_zero] at moved
    simp only [locate, moved, reached_eq]

end Text
end ErrorTemplates
