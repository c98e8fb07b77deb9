import ErrorTemplates.Proofs.Diagnostic.Padding
import ErrorTemplates.Proofs.Text.ByteOrder
import Mathlib.Data.List.Nodup
import Mathlib.Data.Prod.Lex
import Mathlib.Data.String.Basic

/-!
# The order of a report

A report shows its issues in the order of their locations, and those at one location in the order
in which they were found. Only one list does so. What else a report says, the width of its margin
and its counts, does not depend on the order of the issues, so neither does the report when no two
issues have the same location.
-/

namespace ErrorTemplates
namespace Diagnostic

open Text (Measure utf8)

/-! ## Places -/

/-- A location may stand before another one: by the bytes of its file, then by its line, then by
its column. -/
def Precedes (one other : Text.Location) : Prop :=
  utf8 one.file < utf8 other.file ∨
    one.file = other.file ∧
      (one.line < other.line ∨ one.line = other.line ∧ one.column ≤ other.column)

/-- What decides where a location stands, in the order of its parts. -/
def place (location : Text.Location) : String ×ₗ Nat ×ₗ Nat :=
  toLex (location.file, toLex (location.line, location.column))

theorem precedes_iff_place_le {one other : Text.Location} :
    Precedes one other ↔ place one ≤ place other := by
  simp only [Precedes, place, Prod.Lex.toLex_le_toLex, Text.utf8_lt_utf8_iff]

theorem before_iff_place_lt {one other : Text.Location} :
    before one other = true ↔ place one < place other := by
  simp only [before, place, Prod.Lex.toLex_lt_toLex]
  split
  next sameFile =>
    split
    next sameLine => simp [sameFile, sameLine]
    next otherLine => simp [sameFile, otherLine]
  next otherFile => simp [otherFile]

theorem inOrder_iff_place_le {one other : Issue} :
    inOrder one other = true ↔ place one.location ≤ place other.location := by
  rw [inOrder, Bool.not_eq_true', ← Bool.not_eq_true, before_iff_place_lt, not_lt]

/-- The issues at a place, in the order in which they stand. -/
def atPlace (issues : List Issue) (position : String ×ₗ Nat ×ₗ Nat) : List Issue :=
  issues.filter fun issue => place issue.location = position

/-! ## Sorting -/

/-- A list has the issues of another one in the order of their locations, and those at one place
in the order in which they stand there. -/
structure StablyOrdered (issues ordered : List Issue) : Prop where
  perm : ordered.Perm issues
  precedes : ordered.Pairwise fun one other => Precedes one.location other.location
  stable : ∀ position, atPlace ordered position = atPlace issues position

theorem inOrder_trans (one other third : Issue)
    (firstInOrder : inOrder one other = true)
    (secondInOrder : inOrder other third = true) : inOrder one third = true := by
  rw [inOrder_iff_place_le] at firstInOrder secondInOrder ⊢
  exact firstInOrder.trans secondInOrder

theorem inOrder_total (one other : Issue) : (inOrder one other || inOrder other one) = true := by
  rw [Bool.or_eq_true, inOrder_iff_place_le, inOrder_iff_place_le]
  exact le_total _ _

theorem pairwise_precedes_iff {issues : List Issue} :
    issues.Pairwise (fun one other => Precedes one.location other.location) ↔
      issues.Pairwise fun one other => inOrder one other = true := by
  simp only [precedes_iff_place_le, inOrder_iff_place_le]

/-- Issues at one place stay in order when all issues are sorted. -/
theorem atPlace_sorted (issues : List Issue) (position : String ×ₗ Nat ×ₗ Nat) :
    atPlace (sorted issues) position = atPlace issues position := by
  have samePlace : (atPlace issues position).Pairwise fun one other =>
      inOrder one other = true := by
    rw [List.pairwise_iff_forall_sublist]
    intro one other both
    have onePresent := both.subset List.mem_cons_self
    have otherPresent := both.subset (List.mem_cons_of_mem _ List.mem_cons_self)
    rw [atPlace, List.mem_filter, decide_eq_true_eq] at onePresent otherPresent
    exact inOrder_iff_place_le.mpr (onePresent.2.trans otherPresent.2.symm).le
  have kept : (atPlace issues position).Sublist (sorted issues) :=
    List.sublist_mergeSort inOrder_trans inOrder_total samePlace List.filter_sublist
  have keptAtPlace := kept.filter fun issue => place issue.location = position
  rw [atPlace, List.filter_filter] at keptAtPlace
  simp only [Bool.and_self] at keptAtPlace
  refine (keptAtPlace.eq_of_length ?_).symm
  exact ((List.mergeSort_perm issues inOrder).symm.filter _).length_eq

theorem sorted_stablyOrdered (issues : List Issue) : StablyOrdered issues (sorted issues) where
  perm := List.mergeSort_perm issues inOrder
  precedes := pairwise_precedes_iff.mpr
    (List.pairwise_mergeSort inOrder_trans inOrder_total issues)
  stable := atPlace_sorted issues

section
variable {first : Issue} {rest : List Issue}

theorem place_first_le
    (ordered : (first :: rest).Pairwise fun one other => Precedes one.location other.location)
    {issue : Issue}
    (listed : issue ∈ first :: rest) : place first.location ≤ place issue.location := by
  rcases List.mem_cons.mp listed with rfl | later
  · exact le_rfl
  · exact precedes_iff_place_le.mp (List.rel_of_pairwise_cons ordered later)

theorem atPlace_cons (position : String ×ₗ Nat ×ₗ Nat) :
    atPlace (first :: rest) position =
      if place first.location = position then first :: atPlace rest position
      else atPlace rest position := by
  simp [atPlace, List.filter_cons]

/-- The first issue of a list is in every list with the same issues at each place. -/
theorem first_mem_of_atPlace_eq
    {issues : List Issue}
    (alike : ∀ position, atPlace (first :: rest) position = atPlace issues position) :
    first ∈ issues := by
  have present : first ∈ atPlace issues (place first.location) := by
    rw [← alike, atPlace_cons, if_pos rfl]
    exact List.mem_cons_self
  exact (List.mem_filter.mp present).1

end

/-- Ordered lists with the same issues at each place are the same. -/
theorem eq_of_atPlace_eq
    {issues others : List Issue}
    (ordered : issues.Pairwise fun one other => Precedes one.location other.location)
    (othersOrdered : others.Pairwise fun one other => Precedes one.location other.location)
    (alike : ∀ position, atPlace issues position = atPlace others position) :
    issues = others := by
  induction issues generalizing others with
  | nil =>
      cases others with
      | nil => rfl
      | cons other others =>
          exact absurd (first_mem_of_atPlace_eq fun position => (alike position).symm)
            List.not_mem_nil
  | cons issue issues inductionHypothesis =>
      cases others with
      | nil => exact absurd (first_mem_of_atPlace_eq alike) List.not_mem_nil
      | cons other others =>
          -- Each of the first issues is in the other list, where nothing stands before its first.
          have samePlace : place issue.location = place other.location := le_antisymm
            (place_first_le ordered
              (first_mem_of_atPlace_eq fun position => (alike position).symm))
            (place_first_le othersOrdered (first_mem_of_atPlace_eq alike))
          have sameFirst : issue = other := by
            have firstAlike := alike (place issue.location)
            rw [atPlace_cons, atPlace_cons, if_pos rfl, if_pos samePlace.symm] at firstAlike
            exact (List.cons.inj firstAlike).1
          subst sameFirst
          rw [inductionHypothesis ordered.of_cons othersOrdered.of_cons fun position => ?_]
          have restAlike := alike position
          rw [atPlace_cons, atPlace_cons] at restAlike
          split at restAlike
          · exact (List.cons.inj restAlike).2
          · exact restAlike

/-- Sorting gives the only such list. -/
theorem stablyOrdered_iff {issues ordered : List Issue} :
    StablyOrdered issues ordered ↔ ordered = sorted issues := by
  refine ⟨fun isOrdered => ?_, fun ordered_eq => ordered_eq ▸ sorted_stablyOrdered issues⟩
  have sortedIsOrdered := sorted_stablyOrdered issues
  exact eq_of_atPlace_eq isOrdered.precedes sortedIsOrdered.precedes fun position =>
    (isOrdered.stable position).trans (sortedIsOrdered.stable position).symm

/-- Issues that are in order stay as they are. -/
theorem sorted_eq_self
    {issues : List Issue}
    (ordered : issues.Pairwise fun one other => Precedes one.location other.location) :
    sorted issues = issues :=
  List.mergeSort_of_pairwise (pairwise_precedes_iff.mp ordered)

/-- When no two issues share a place, their order before sorting does not matter. -/
theorem sorted_eq_sorted_of_perm
    {one other : List Issue}
    (perm : one.Perm other)
    (distinct : (one.map fun issue => place issue.location).Nodup) :
    sorted one = sorted other := by
  have samePerm : (sorted one).Perm (sorted other) :=
    ((List.mergeSort_perm one inOrder).trans perm).trans (List.mergeSort_perm other inOrder).symm
  refine samePerm.eq_of_pairwise (fun issue another listed anotherListed le ge => ?_)
    (sorted_stablyOrdered one).precedes (sorted_stablyOrdered other).precedes
  have samePlace : place issue.location = place another.location :=
    le_antisymm (precedes_iff_place_le.mp le) (precedes_iff_place_le.mp ge)
  have inOne : issue ∈ one := List.mem_mergeSort.mp listed
  have anotherInOne : another ∈ one := perm.mem_iff.mpr (List.mem_mergeSort.mp anotherListed)
  exact List.inj_on_of_nodup_map distinct inOne anotherInOne samePlace

/-! ## What does not depend on the order -/

theorem marginWidth_eq_of_perm {one other : List Issue} (perm : one.Perm other) :
    marginWidth one = marginWidth other := by
  rw [marginWidth, marginWidth, (perm.map _).foldl_eq]

/-- The number of warnings among issues. -/
def warningCount (issues : List Issue) : Nat :=
  issues.countP fun issue => issue.severity == .warning

/-- Every issue is an error or a warning. -/
theorem length_eq_add (issues : List Issue) :
    issues.length = errorCount issues + warningCount issues := by
  rw [List.length_eq_countP_add_countP Issue.isError, errorCount, warningCount]
  congr 2
  funext issue
  cases issue <;> rfl

/-- The line that tells how many issues there are, and how many of them are errors and
warnings. -/
def countLine (total errors warnings : Nat) : Styled :=
  [failureMark, .plain (" " ++ toString total ++ " problems (" ++ toString errors ++ " "),
    { style := .of .red, text := counted errors "error" "errors" },
    .plain (", " ++ toString warnings ++ " "),
    { style := .of .yellow, text := counted warnings "warning" "warnings" },
    .plain ")", lineEnd]

theorem summaryLine_eq (issues : List Issue) :
    summaryLine issues = countLine issues.length (errorCount issues) (warningCount issues) := by
  have warnings_eq : issues.length - errorCount issues = warningCount issues := by
    rw [length_eq_add, Nat.add_sub_cancel_left]
  rw [← warnings_eq]
  rfl

theorem summaryLine_sorted (issues : List Issue) :
    summaryLine (sorted issues) =
      countLine issues.length (errorCount issues) (warningCount issues) := by
  have perm : (sorted issues).Perm issues := List.mergeSort_perm issues inOrder
  rw [summaryLine_eq, perm.length_eq, errorCount, warningCount, perm.countP_eq, perm.countP_eq]
  rfl

/-! ## Reports -/

/-- The lines of the issues, one after the other. -/
def blocks [Measure] (inColour : Bool) (width : Nat) (issues : List Issue) : List String :=
  issues.map fun issue => Styled.render inColour (issueLines width issue)

theorem render_report
    [Measure]
    {issues : List Issue}
    (nonempty : issues ≠ [])
    (inColour : Bool) :
    (report issues).render inColour =
      String.join (blocks inColour (marginWidth issues) (sorted issues)) ++
        Styled.render inColour
          (countLine issues.length (errorCount issues) (warningCount issues)) := by
  have margin_eq : marginWidth (sorted issues) = marginWidth issues :=
    marginWidth_eq_of_perm (List.mergeSort_perm issues inOrder)
  rw [report_eq nonempty, Styled.render_append, Styled.render_flatten, List.map_map, margin_eq,
    summaryLine_sorted, blocks, Function.comp_def]

/-- The numbers of the lines of issues fit into machine words, so they have at most twenty
digits. -/
def HaveLines (issues : List Issue) : Prop := ∀ issue ∈ issues, issue.location.line < 2 ^ 64

/-- A report is written unless a caret has more blanks before it than a text can be padded with. -/
theorem writeReport?_eq_of_haveLines
    [Measure]
    {issues : List Issue}
    (lines : HaveLines issues)
    (inColour : Bool) :
    writeReport? inColour issues =
      if ∀ issue ∈ issues, caretIndent issue.location ≤ widestPadding then
        some ((report issues).render inColour)
      else none := by
  have fewDigits : marginWidth (sorted issues) ≤ 20 := by
    refine marginWidth_le (by decide) fun issue listed => ?_
    exact Nat.lt_trans (lines issue (List.mem_mergeSort.mp listed)) (by decide)
  have narrow : marginWidth (sorted issues) ≤ widestPadding :=
    Nat.le_trans fewDigits (by decide)
  rw [writeReport?_eq]
  simp only [paddings_fit_iff narrow]

/-- The report of no issues is empty. The report of others is written when no caret has more
blanks before it than a text can be padded with, and breaks off else. It shows the lines of every
issue with one margin, in the only order that goes by location and keeps the order of issues at one
location, and tells how many there are. Issues at different places give one report in whatever
order they come, and issues in order are shown as they come. -/
theorem report_goes_by_location [Measure] (inColour : Bool) :
    writeReport? inColour [] = some "" ∧
      (∀ issues, issues ≠ [] -> HaveLines issues -> ∃ ordered width errors warnings,
        (∀ others, StablyOrdered issues others ↔ others = ordered) ∧
        (issues.Pairwise (fun one other => Precedes one.location other.location) ->
          ordered = issues) ∧
        (∀ issue ∈ issues, (padded width (toString issue.location.line)).length = width) ∧
        errors = issues.countP (fun issue => issue.severity == .error) ∧
        warnings = issues.countP (fun issue => issue.severity == .warning) ∧
        issues.length = errors + warnings ∧
        writeReport? inColour issues =
          if ∀ issue ∈ issues, caretIndent issue.location ≤ widestPadding then
            some (String.join (blocks inColour width ordered) ++
              Styled.render inColour (countLine issues.length errors warnings))
          else none) ∧
      ∀ one other, one.Perm other -> (one.map fun issue => place issue.location).Nodup ->
        writeReport? inColour one = writeReport? inColour other := by
  refine ⟨rfl, fun issues nonempty lines => ?_, fun one other perm distinct => ?_⟩
  · refine ⟨sorted issues, marginWidth issues, errorCount issues, warningCount issues,
      fun others => stablyOrdered_iff, sorted_eq_self,
      fun issue listed => length_padded (length_toString_le_marginWidth listed), rfl, rfl,
      length_eq_add issues, ?_⟩
    rw [writeReport?_eq_of_haveLines lines, render_report nonempty]
  · have sorted_eq := sorted_eq_sorted_of_perm perm distinct
    have isEmpty_eq : one.isEmpty = other.isEmpty := perm.isEmpty_eq
    rw [writeReport?, writeReport?, reportRows, reportRows, isEmpty_eq, sorted_eq]

/-- An issue on the first line of a file. -/
def firstIssue : Issue :=
  .unreadable { file := "app.js", line := 1, column := 9, sourceLine := "var a = ;" } "Unexpected"

/-- An issue on the tenth line of that file. -/
def tenthIssue : Issue :=
  .wrapped { file := "app.js", line := 10, column := 1, sourceLine := "throw new Error(e);" }
    "foo" "a"

theorem report_goes_by_location_sample :
    (∃ ordered width, StablyOrdered [firstIssue, tenthIssue] ordered ∧
      ordered = [firstIssue, tenthIssue] ∧
      writeReport? false [firstIssue, tenthIssue] =
        some (String.join (blocks false width ordered) ++
          Styled.render false (countLine 2 1 1))) ∧
      writeReport? true [tenthIssue, firstIssue] = writeReport? true [firstIssue, tenthIssue] := by
  obtain ⟨_, shown, _⟩ := report_goes_by_location false
  obtain ⟨_, _, alike⟩ := report_goes_by_location true
  refine ⟨?_, alike _ _ (List.Perm.swap _ _ _) (by decide)⟩
  have lines : HaveLines [firstIssue, tenthIssue] := by
    rw [HaveLines]
    decide
  obtain ⟨ordered, width, errors, warnings, ordered_iff, kept, _, rfl, rfl, _, written⟩ :=
    shown [firstIssue, tenthIssue] (List.cons_ne_nil _ _) lines
  rw [if_pos (by decide)] at written
  refine ⟨ordered, width, (ordered_iff ordered).mpr rfl, kept ?_, written⟩
  simp [Precedes, firstIssue, tenthIssue, Issue.location]

/-- An issue at the end of a line of blanks, on the second line of that file. -/
def indentedIssue : Issue :=
  .unreadable
    { file := "app.js", line := 2, column := 65537, sourceLine := blanks 65536 ++ "\x7d" }
    "Expression expected"

/-- One caret far into a line is enough for a report to break off, although other issues are listed
with it. -/
theorem report_of_two_issues_breaks_off :
    HaveLines [firstIssue, indentedIssue] ∧
      caretIndent indentedIssue.location = widestPadding + 1 ∧
      (∀ text, writeReport? false [firstIssue, indentedIssue] ≠ some text) := by
  have lines : HaveLines [firstIssue, indentedIssue] := by
    rw [HaveLines]
    decide
  have indent_eq : caretIndent indentedIssue.location = 65536 := caretIndent_of_blanks rfl rfl
  refine ⟨lines, indent_eq, fun text => ?_⟩
  rw [writeReport?_eq_of_haveLines lines, if_neg]
  · exact (Option.some_ne_none text).symm
  · intro fit
    have fits := fit indentedIssue (List.mem_cons_of_mem _ List.mem_cons_self)
    rw [indent_eq] at fits
    exact absurd fits (by decide)

end Diagnostic
end ErrorTemplates
