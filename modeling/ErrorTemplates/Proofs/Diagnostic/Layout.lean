import ErrorTemplates.Diagnostic.Report
import ErrorTemplates.Proofs.Text.Widths

/-!
# The layout of a report

A report is written row by row, and it is the text of all its rows unless something is padded too
far. It shows the lines of every issue. They share a margin that is as wide as the number of any
line, so the bar beside it stands in the same column in all of them.
-/

namespace ErrorTemplates
namespace Diagnostic

/-! ## Rendering -/

theorem Styled.render_append (inColour : Bool) (text other : Styled) :
    Styled.render inColour (text ++ other) =
      Styled.render inColour text ++ Styled.render inColour other := by
  rw [Styled.render, List.map_append, String.join_append]
  rfl

theorem Styled.render_flatten (inColour : Bool) (lines : List Styled) :
    Styled.render inColour lines.flatten = String.join (lines.map (Styled.render inColour)) := by
  induction lines with
  | nil => rfl
  | cons line rest inductionHypothesis =>
      rw [List.flatten_cons, Styled.render_append, inductionHypothesis, List.map_cons,
        String.join_cons]

/-! ## Rows -/

/-- Rows are written unless a part of one of them is padded too far. -/
theorem mapM_write?_eq (inColour : Bool) (rows : List Row) :
    rows.mapM (Row.write? inColour) =
      if rows.flatten.all Part.fits then some (rows.map fun row => row.styled.render inColour)
      else none := by
  induction rows with
  | nil => rfl
  | cons row rows inductionHypothesis =>
      rw [List.mapM_cons, inductionHypothesis, Row.write?, List.flatten_cons, List.all_append]
      cases row.all Part.fits with
      | false => rfl
      | true =>
          rw [Bool.true_and]
          cases rows.flatten.all Part.fits <;> rfl

/-- The widths to which parts of a report are padded. -/
def paddings [Text.Measure] (issues : List Issue) : List Nat :=
  (reportRows issues).flatten.filterMap Part.width?

theorem all_fits_iff (parts : List Part) :
    parts.all Part.fits = true ↔
      ∀ padding ∈ parts.filterMap Part.width?, padding ≤ widestPadding := by
  simp only [List.all_eq_true, Part.fits, Option.all_eq_true, decide_eq_true_eq,
    List.mem_filterMap]
  exact ⟨fun fit padding ⟨part, listed, isPadding⟩ => fit part listed padding isPadding,
    fun fit part listed padding isPadding => fit padding ⟨part, listed, isPadding⟩⟩

/-- A report is written as it is unless something is padded too far. -/
theorem writeReport?_eq [Text.Measure] (inColour : Bool) (issues : List Issue) :
    writeReport? inColour issues =
      if ∀ padding ∈ paddings issues, padding ≤ widestPadding then
        some ((report issues).render inColour)
      else none := by
  rw [writeReport?, mapM_write?_eq, report, Styled.render_flatten, List.map_map]
  simp only [paddings, ← all_fits_iff]
  split <;> rfl

/-- The report of issues has the lines of all of them in order, and a line that counts them. -/
theorem report_eq
    [Text.Measure]
    {issues : List Issue}
    (nonempty : issues ≠ []) :
    report issues =
      ((sorted issues).map (issueLines (marginWidth (sorted issues)))).flatten ++
        summaryLine (sorted issues) := by
  have rows_eq : reportRows issues =
      ((sorted issues).map (issueRows (marginWidth (sorted issues)))).flatten ++
        [(summaryLine (sorted issues)).map Part.fixed] :=
    if_neg (by simpa using nonempty)
  have summary_eq (line : Styled) : Row.styled (line.map Part.fixed) = line := by
    rw [Row.styled, List.map_map]
    exact List.map_id line
  rw [report, rows_eq, List.map_append, List.flatten_append, List.map_singleton,
    List.flatten_singleton, summary_eq]
  congr 1
  generalize marginWidth (sorted issues) = width
  induction sorted issues with
  | nil => rfl
  | cons issue rest inductionHypothesis =>
      simp only [List.map_cons, List.flatten_cons, List.map_append, List.flatten_append,
        inductionHypothesis, issueLines]

theorem length_toString_mono {one other : Nat} (le : one ≤ other) :
    (toString one).length ≤ (toString other).length := by
  change one.repr.length ≤ other.repr.length
  rw [Nat.repr_eq_ofList_toDigits, Nat.repr_eq_ofList_toDigits, String.length_ofList,
    String.length_ofList]
  have positive : 0 < (Nat.toDigits 10 other).length := Nat.length_toDigits_pos
  have small := (Nat.length_toDigits_le_iff (by decide) positive).mp (Nat.le_refl _)
  exact (Nat.length_toDigits_le_iff (by decide) positive).mpr (Nat.lt_of_le_of_lt le small)

/-- The margin has room for the number of every line. -/
theorem length_toString_le_marginWidth
    {issues : List Issue}
    {issue : Issue}
    (listed : issue ∈ issues) :
    (toString issue.location.line).length ≤ marginWidth issues := by
  have present : issue.location.line ∈ issues.map fun issue => issue.location.line :=
    List.mem_map_of_mem listed
  rw [marginWidth]
  generalize (issues.map fun issue => issue.location.line) = numbers at present
  have largest : (0 :: numbers).max? = some (numbers.foldl max 0) := List.max?_cons'
  exact length_toString_mono
    ((List.max?_eq_some_iff.mp largest).2 _ (List.mem_cons_of_mem _ present))

theorem length_blanks (count : Nat) : (blanks count).length = count := by
  rw [blanks, String.length_ofList, List.length_replicate]

theorem length_padded {width : Nat} {text : String} (fits : text.length ≤ width) :
    (padded width text).length = width := by
  rw [padded, String.length_append, length_blanks, Nat.sub_add_cancel fits]

end Diagnostic
end ErrorTemplates
