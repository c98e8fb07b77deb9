import ErrorTemplates.Program.Source
import ErrorTemplates.Proofs.Diagnostic.Caret
import ErrorTemplates.Proofs.Text.Positions

/-!
# When a report can be written

A report is written unless something in it is padded too far. The margin never is: even the
longest text has lines whose numbers take few digits. The blanks before a caret are as many as the
columns of the text before it. So a report breaks off exactly when a caret has to be placed too far
into a line, which a long line makes possible.
-/

namespace ErrorTemplates
namespace Diagnostic

open Text (Measure isPrintable columnsPassed columnStep displayWidth_of_isPrintable SumsUp)

/-! ## Paddings -/

theorem mem_filterMap_issueRows_iff [Measure] {width padding : Nat} {issue : Issue} :
    padding ∈ (issueRows width issue).flatten.filterMap Part.width? ↔
      padding = width ∨ padding = caretIndent issue.location := by
  cases hint_eq : issue.hint <;> simp [issueRows, hint_eq, gap, bare] <;> tauto

theorem mem_paddings_iff [Measure] {issues : List Issue} {padding : Nat} :
    padding ∈ paddings issues ↔
      ∃ issue ∈ issues, padding = marginWidth (sorted issues) ∨
        padding = caretIndent issue.location := by
  have summary (listed : List Issue) :
      ((summaryLine listed).map Part.fixed).filterMap Part.width? = [] := by
    simp
  rw [paddings, reportRows]
  split
  next isEmpty => simp [List.isEmpty_iff.mp isEmpty]
  next =>
    have atIssue (width : Nat) (listed : List Issue) :
        padding ∈ (listed.map (issueRows width)).flatten.flatten.filterMap Part.width? ↔
          ∃ issue ∈ listed, padding = width ∨ padding = caretIndent issue.location := by
      rw [List.flatten_flatten, List.map_map, ← List.flatMap_def, List.filterMap_flatMap,
        List.mem_flatMap]
      simp only [Function.comp_apply, mem_filterMap_issueRows_iff]
    rw [List.flatten_append, List.flatten_singleton, List.filterMap_append, summary,
      List.append_nil, atIssue]
    simp only [sorted, List.mem_mergeSort]

/-- With a narrow margin only carets can be too far into a line. -/
theorem paddings_fit_iff
    [Measure]
    {issues : List Issue}
    (narrow : marginWidth (sorted issues) ≤ widestPadding) :
    (∀ padding ∈ paddings issues, padding ≤ widestPadding) ↔
      ∀ issue ∈ issues, caretIndent issue.location ≤ widestPadding := by
  constructor
  · intro fit issue listed
    exact fit _ (mem_paddings_iff.mpr ⟨issue, listed, .inr rfl⟩)
  · intro fit padding isPadding
    obtain ⟨issue, listed, rfl | rfl⟩ := mem_paddings_iff.mp isPadding
    · exact narrow
    · exact fit issue listed

/-! ## The margin -/

/-- The margin is not wider than the numbers of the lines allow. -/
theorem marginWidth_le
    {issues : List Issue}
    {digits : Nat}
    (positive : 0 < digits)
    (small : ∀ issue ∈ issues, issue.location.line < 10 ^ digits) :
    marginWidth issues ≤ digits := by
  have largest : (0 :: issues.map fun issue => issue.location.line).max? =
      some ((issues.map fun issue => issue.location.line).foldl max 0) := List.max?_cons'
  have below : (issues.map fun issue => issue.location.line).foldl max 0 < 10 ^ digits := by
    rcases List.mem_cons.mp (List.max?_mem largest) with isZero | listed
    · rw [isZero]
      exact Nat.pow_pos (by decide)
    · obtain ⟨issue, present, line_eq⟩ := List.mem_map.mp listed
      rw [← line_eq]
      exact small issue present
  rw [marginWidth]
  change (Nat.repr _).length ≤ digits
  rw [Nat.repr_eq_ofList_toDigits, String.length_ofList]
  exact (Nat.length_toDigits_le_iff (by decide) positive).mpr below

/-- No text has more characters than memory has bytes. -/
def IsStorable (text : List Char) : Prop := text.length < 2 ^ 64

/-- The number of a line takes at most twenty digits. -/
theorem line_locate_lt
    {source : Program.Source}
    (storable : IsStorable source.text)
    (position : Nat) : (source.locate position).line < 10 ^ 20 := by
  have start_le : (Text.Cursor.start source.text).line ≤ 1 := by
    rw [Text.Cursor.start]
    split
    · exact Nat.zero_le 1
    · exact Nat.le_refl 1
  have line_le := Text.Cursor.line_moveBy_le (Text.Cursor.start source.text) position source.text
  have small : source.text.length < 2 ^ 64 := storable
  change ((Text.Cursor.start source.text).moveBy position source.text).line < 10 ^ 20
  omega

/-! ## The blanks before a caret -/

/-- Where nothing on its line is drawn together, the caret of a location stands on the line or right
after it. -/
theorem caretIndent_le
    [Measure]
    {location : Text.Location}
    {each : Char -> Nat}
    (sums : SumsUp each location.sourceLine.toList) :
    caretIndent location ≤ Measure.width location.sourceLine := by
  have whole := sums location.sourceLine.toList.length
  have indent_eq := sums (location.column - 1)
  rw [Text.widthOfFirst, List.take_length, String.ofList_toList] at whole
  rw [whole]
  refine indent_eq.le.trans ?_
  exact ((List.take_sublist _ _).map each).sum_le_sum fun _ _ => Nat.zero_le _

/-- Before the end of a line of blanks there are all of them. -/
theorem caretIndent_of_blanks
    [Measure]
    {location : Text.Location}
    {count : Nat}
    {rest : String}
    (line_eq : location.sourceLine = blanks count ++ rest)
    (column_eq : location.column = count + 1) : caretIndent location = count := by
  have length_eq : (blanks count).toList.length = count := by
    rw [String.length_toList, length_blanks]
  have blanks_eq : (blanks count ++ rest).toList.take count = (blanks count).toList := by
    rw [String.toList_append, List.take_append_of_le_length length_eq.ge,
      List.take_of_length_le length_eq.le]
  rw [caretIndent, line_eq, column_eq, Nat.add_sub_cancel, blanks_eq, String.ofList_toList,
    Measure.width_of_isPrintable _ (all_isPrintable_blanks count), length_blanks]

theorem columnStep_of_isPrintable
    {character : Char}
    (printable : isPrintable character = true) : columnStep character = 1 := by
  obtain ⟨large, small⟩ : 0x20 ≤ character.toNat ∧ character.toNat < 0x7f := by
    simpa [isPrintable] using printable
  have notTab : character ≠ '\t' := fun isTab => by simp [isTab] at large
  have notFeed : character ≠ '\n' := fun isFeed => by simp [isFeed] at large
  have notReturn : character ≠ '\r' := fun isReturn => by simp [isReturn] at large
  rw [columnStep, if_neg notTab, if_neg (by simp [notFeed, notReturn]), if_neg (by omega),
    if_neg (by simp; omega), if_neg (by omega), displayWidth_of_isPrintable printable]

/-- After printable characters there is a blank for each of them. -/
theorem caretIndent_of_isPrintable
    [Measure]
    {location : Text.Location}
    {earlier head after : List Char}
    (shows : location.Shows earlier head after)
    (printable : ∀ character ∈ head, isPrintable character = true) :
    caretIndent location = head.length := by
  have passed_eq : columnsPassed head = head.length :=
    Text.sum_eq_length fun character present => columnStep_of_isPrintable (printable _ present)
  have goesOn : ∀ character ∈ head, (character != '\n') = true := by
    intro character present
    have notFeed : character ≠ '\n' := fun isFeed =>
      absurd (printable character present) (by rw [isFeed]; decide)
    simpa using notFeed
  rw [caretIndent, shows.column_eq, passed_eq, Nat.add_sub_cancel_left, shows.sourceLine_eq,
    List.takeWhile_append_of_pos goesOn, List.take_left,
    Measure.width_of_isPrintable _ (by simpa using printable), String.length_ofList]

/-- After printable characters at the beginning of a text there is a blank for each of them. -/
theorem caretIndent_locate_of_isPrintable
    [Measure]
    {before after : List Char}
    (printable : ∀ character ∈ before, isPrintable character = true)
    (nonempty : after ≠ [])
    (file : String) :
    caretIndent (Text.locate file (before ++ after) (Program.bytes before)) = before.length := by
  obtain ⟨earlier, head, rfl, shows⟩ :=
    Text.exists_locate_shows (List.append_ne_nil_of_right_ne_nil before nonempty) file
  have notEarlier : earlier = [] := by
    refine shows.begins.afterEnd.resolve_right ?_
    rintro ⟨front, last, rfl, ends⟩
    have lastPrintable := printable last (by simp)
    rcases Text.eq_or_eq_of_endsLine ends with rfl | rfl <;> exact absurd lastPrintable (by decide)
  subst notEarlier
  exact caretIndent_of_isPrintable shows printable

/-! ## Writing -/

/-- Whatever measure it is laid out by, the report of issues at positions of texts is written unless
one of their carets has more blanks before it than a text can be padded with. After printable
characters there is a blank for each, and where nothing on the line is drawn together, there are
never more of them than columns in the line. -/
theorem report_written_iff
    [Measure]
    {issues : List Issue}
    (located : ∀ issue ∈ issues, ∃ source : Program.Source, IsStorable source.text ∧
      ∃ position, issue.location = source.locate position)
    (inColour : Bool) :
    (∀ padding ∈ paddings issues,
        padding ≤ 20 ∨ ∃ issue ∈ issues, padding = caretIndent issue.location) ∧
      ((∀ padding ∈ paddings issues, padding ≤ widestPadding) ↔
        ∀ issue ∈ issues, caretIndent issue.location ≤ widestPadding) ∧
      writeReport? inColour issues =
        (if ∀ issue ∈ issues, caretIndent issue.location ≤ widestPadding then
          some ((report issues).render inColour)
        else none) ∧
      ∀ issue ∈ issues,
        (∀ each, SumsUp each issue.location.sourceLine.toList ->
          caretIndent issue.location ≤ Measure.width issue.location.sourceLine) ∧
          ∀ earlier head after, issue.location.Shows earlier head after ->
            (∀ character ∈ head, isPrintable character = true) ->
              caretIndent issue.location = head.length := by
  have margin_le : marginWidth (sorted issues) ≤ 20 := by
    refine marginWidth_le (by decide) fun issue listed => ?_
    obtain ⟨source, storable, position, location_eq⟩ := located issue (List.mem_mergeSort.mp listed)
    rw [location_eq]
    exact line_locate_lt storable position
  have fits_iff : (∀ padding ∈ paddings issues, padding ≤ widestPadding) ↔
      ∀ issue ∈ issues, caretIndent issue.location ≤ widestPadding :=
    paddings_fit_iff (Nat.le_trans margin_le (by decide))
  refine ⟨fun padding isPadding => ?_, fits_iff, ?_, fun issue listed => ⟨?_, ?_⟩⟩
  · obtain ⟨issue, listed, rfl | rfl⟩ := mem_paddings_iff.mp isPadding
    · exact .inl margin_le
    · exact .inr ⟨issue, listed, rfl⟩
  · simp only [writeReport?_eq, fits_iff]
  · exact fun each => caretIndent_le
  · exact fun earlier head after => caretIndent_of_isPrintable

/-- A call whose code is not constant. -/
def shortSource : Program.Source := .ofText "app.js" "fooMinErr(code, 'text');"

/-- The issue of that call. -/
def shortIssue : Issue := .notConstant (shortSource.locate 10) "foo" .code

theorem report_written_iff_sample :
    IsStorable shortSource.text ∧ caretIndent shortIssue.location = 10 ∧
      writeReport? false [shortIssue] = some ((report [shortIssue]).render false) := by
  have storable : IsStorable shortSource.text := by
    rw [IsStorable]
    decide
  have indent_eq : caretIndent shortIssue.location = 10 := by decide
  obtain ⟨_, _, written, _⟩ := report_written_iff
    (List.forall_mem_singleton.mpr ⟨shortSource, storable, 10, rfl⟩ :
      ∀ issue ∈ [shortIssue], _) false
  refine ⟨storable, indent_eq, ?_⟩
  rw [written, if_pos]
  rw [List.forall_mem_singleton, indent_eq]
  decide

/-- What is on a line after so many statements, before a call that is wrapped. -/
def beforeWrapped (statements : Nat) : List Char :=
  (List.replicate statements "x();".toList).flatten ++ "throw new Error(".toList

/-- Where that call is. -/
def wrappedLocation (statements : Nat) : Text.Location :=
  Text.locate "bundle.js" (beforeWrapped statements ++ "fooMinErr('a', 'b'));".toList)
    (Program.bytes (beforeWrapped statements))

theorem caretIndent_wrappedLocation (statements : Nat) :
    caretIndent (wrappedLocation statements) = 4 * statements + 16 := by
  have statementPrintable : "x();".toList.all isPrintable = true := by decide
  have throwPrintable : "throw new Error(".toList.all isPrintable = true := by decide
  have printable : (beforeWrapped statements).all isPrintable = true := by
    rw [beforeWrapped, List.all_append, List.all_flatten, List.all_replicate, statementPrintable,
      throwPrintable, ite_self, Bool.and_self]
  rw [wrappedLocation, caretIndent_locate_of_isPrintable (List.all_eq_true.mp printable) (by simp),
    beforeWrapped, List.length_append, List.length_flatten, List.map_replicate,
    List.sum_replicate_nat]
  exact congrArg (· + 16) (Nat.mul_comm statements 4)

/-- A report of an issue far into a line breaks off. -/
theorem report_breaks_off_on_long_line :
    caretIndent (wrappedLocation 16384) = 65552 ∧
      (¬ ∀ padding ∈ paddings [.wrapped (wrappedLocation 16384) "foo" "a"],
        padding ≤ widestPadding) ∧
      writeReport? false [.wrapped (wrappedLocation 16384) "foo" "a"] = none := by
  have indent_eq := caretIndent_wrappedLocation 16384
  have tooFar : ¬ ∀ padding ∈ paddings [.wrapped (wrappedLocation 16384) "foo" "a"],
      padding ≤ widestPadding := by
    intro fit
    have fits := fit _ (mem_paddings_iff.mpr ⟨_, List.mem_cons_self, .inr rfl⟩)
    change caretIndent (wrappedLocation 16384) ≤ widestPadding at fits
    rw [indent_eq] at fits
    exact absurd fits (by decide)
  exact ⟨indent_eq, tooFar, by rw [writeReport?_eq, if_neg tooFar]⟩

end Diagnostic
end ErrorTemplates
