import ErrorTemplates.Proofs.Diagnostic.LocationOrder
import ErrorTemplates.Proofs.Extraction.InText
import ErrorTemplates.Proofs.Extraction.Locating
import ErrorTemplates.Proofs.Parse.BelongingPrograms
import ErrorTemplates.Proofs.Text.Positions

/-!
# Issues in source order

Every issue of a run is located at a position of the program. Locations are in the order of their
positions, and positions with a column between them are not shown alike. So a report of a run goes
through the program from its beginning to its end.
-/

namespace ErrorTemplates

attribute [ext] Text.Location

namespace Extraction

open Diagnostic
open Program

/-! ## Positions of a source -/

section
variable (source : Source) {position further : Nat}

theorem place_locate_le (le : position ≤ further) :
    place (source.locate position) ≤ place (source.locate further) := by
  rw [← precedes_iff_place_le, Diagnostic.Precedes]
  refine .inr ⟨rfl, ?_⟩
  rcases Text.locate_upTo le source.file source.text with above | ⟨sameLine, _, le⟩
  · exact .inl above
  · exact .inr ⟨sameLine, le⟩

/-- Positions at the same place are shown alike. -/
theorem locate_eq_of_place_eq
    (samePlace : place (source.locate position) = place (source.locate further)) :
    source.locate position = source.locate further := by
  wlog le : position ≤ further generalizing position further
  · exact (this samePlace.symm (Nat.le_of_not_le le)).symm
  obtain ⟨sameFile, sameLine, sameColumn⟩ :
      (source.locate position).file = (source.locate further).file ∧
        (source.locate position).line = (source.locate further).line ∧
        (source.locate position).column = (source.locate further).column := by
    simpa [place] using samePlace
  rcases Text.locate_upTo le source.file source.text with above | ⟨_, sameSourceLine, _⟩
  · exact absurd sameLine (Nat.ne_of_lt above)
  · exact Text.Location.ext sameFile sameLine sameColumn sameSourceLine

end

/-! ## Located issues -/

/-- The issue was found at a position of the source. -/
def LocatedIn (source : Source) (issue : Issue) : Prop :=
  ∃ position, issue.location = source.locate position

/-- An issue may stand before another one: it was not found further in the source, unless both are
shown alike. -/
def InSourceOrder (source : Source) (one other : Issue) : Prop :=
  ∀ position further, one.location = source.locate position ->
    other.location = source.locate further ->
      position ≤ further ∨ one.location = other.location

theorem inSourceOrder_of_precedes
    {source : Source}
    {one other : Issue}
    (precedes : Diagnostic.Precedes one.location other.location) :
    InSourceOrder source one other := by
  intro position further located otherLocated
  rcases Nat.le_total position further with le | ge
  · exact .inl le
  · rw [precedes_iff_place_le, located, otherLocated] at precedes
    rw [located, otherLocated]
    exact .inr (locate_eq_of_place_eq source (le_antisymm precedes (place_locate_le source ge)))

/-! ## Runs -/

/-- The issues that are told at the end of a run. -/
def Outcome.told : Outcome -> List Issue
  | .completed _ issues _ => issues
  | .aborted error issues => issues ++ [error]

/-- All that was found so far was found in the source. -/
structure Progress.Located (source : Source) (progress : Progress) : Prop where
  issues : ∀ issue ∈ progress.issues, LocatedIn source issue
  failure : ∀ issue ∈ progress.failure, LocatedIn source issue

section
variable {source : Source} {sources : Sources}
variable (known : ∀ span, ∃ position, sources.locate span = source.locate position)
include known

/-- An event finds nothing elsewhere. -/
theorem located_apply
    {progress : Progress}
    (located : progress.Located source)
    (event : Event) : (Event.apply sources progress event).Located source := by
  cases running : progress.isStopped with
  | true => rwa [Event.apply_of_isStopped running]
  | false =>
      cases event with
      | declares address nameSpan =>
          rw [Event.apply_declares running]
          exact ⟨located.issues, located.failure⟩
      | makes errorCall isThrown =>
          rw [Event.apply_makes running]
          cases errorCall.folded? with
          | none =>
              refine ⟨located.issues, fun issue isFailure => ?_⟩
              obtain rfl := Option.some.inj isFailure
              exact known _
          | some entry =>
              cases isThrown with
              | false => exact ⟨located.issues, located.failure⟩
              | true =>
                  refine ⟨fun issue listed => ?_, located.failure⟩
                  rcases List.mem_append.mp listed with before | isNew
                  · exact located.issues issue before
                  · obtain rfl := List.mem_singleton.mp isNew
                    exact known _

theorem located_foldl_apply
    {progress : Progress}
    (located : progress.Located source)
    (events : List Event) : (events.foldl (Event.apply sources) progress).Located source := by
  induction events generalizing progress with
  | nil => exact located
  | cons event rest inductionHypothesis =>
      exact inductionHypothesis (located_apply known located event)

theorem located_complete
    {progress : Progress}
    (located : progress.Located source)
    (setup : Setup)
    (program : Program) :
    ∀ issue ∈ (setup.complete sources program progress).1.told, LocatedIn source issue := by
  rw [Setup.complete]
  split
  · exact located.issues
  · intro issue listed
    rcases List.mem_append.mp listed with before | isNew
    · exact located.issues issue before
    · obtain rfl := List.mem_singleton.mp isNew
      exact known _
  · exact located.issues

theorem located_runOn (setup : Setup) (program : Program) :
    ∀ issue ∈ (setup.runOn sources program).1.told, LocatedIn source issue := by
  have located : (progressOf setup.naming sources program).Located source :=
    located_foldl_apply known ⟨by simp [Progress.start], by simp [Progress.start]⟩ _
  rw [runOn_eq]
  dsimp only
  split
  · next error failure_eq =>
    intro issue listed
    rcases List.mem_append.mp listed with before | isError
    · exact located.issues issue before
    · obtain rfl := List.mem_singleton.mp isError
      exact located.failure issue failure_eq
  · exact located_complete known located setup _

end

/-- A run over a program whose spans belong to its own text finds nothing elsewhere. -/
theorem located_run
    {program : Program}
    (own : SpansOwn program)
    (setup : Setup)
    (source : Source) : ∀ issue ∈ (setup.run source program).1.told, LocatedIn source issue := by
  -- The text of a replacement is not looked at, so it may as well be that of the program.
  let sources : Sources := { program := source, replacement := source.text }
  have known (span : Span) : ∃ position, sources.locate span = source.locate position := by
    refine ⟨span.start, ?_⟩
    rw [Sources.locate]
    cases span.origin <;> rfl
  have alike : LocateAlike (setup.sources source) sources program :=
    locateAlike_of_spansOwn own rfl
  rw [Setup.run, runOn_eq_of_locateAlike alike]
  exact located_runOn known setup program

/-! ## Reports of runs -/

/-- The report of issues goes through the source in which they were found, and shows those at one
place in the order in which they were found. -/
def ReportFollows (source : Source) (issues : List Issue) : Prop :=
  ∀ inColour, ∃ ordered width, StablyOrdered issues ordered ∧
    ordered.Pairwise (InSourceOrder source) ∧
    (report issues).render inColour =
      String.join (blocks inColour width ordered) ++
        Styled.render inColour
          (countLine issues.length (errorCount issues) (warningCount issues))

theorem reportFollows_of_ne_nil
    {issues : List Issue}
    (nonempty : issues ≠ [])
    (source : Source) : ReportFollows source issues := by
  intro inColour
  have isOrdered := sorted_stablyOrdered issues
  exact ⟨sorted issues, marginWidth issues, isOrdered,
    isOrdered.precedes.imp inSourceOrder_of_precedes, render_report nonempty inColour⟩

theorem withoutMark_eq_self
    {text : List Char}
    (unmarked : text.head? ≠ some Text.byteOrderMark) : Text.withoutMark text = text := by
  cases text with
  | nil => rfl
  | cons first rest => exact if_neg fun isMark => unmarked (congrArg some isMark)

/-- In a text without a byte order mark, positions are shown by their lines and columns, and further
positions are not shown before earlier ones; those that are shown alike have no column between them.
So issues are never sorted against their positions, and the report of a run goes through the source
from its beginning to its end. Only an empty text has no first line. -/
theorem locations_follow_source
    (file text : String)
    (unmarked : text.toList.head? ≠ some Text.byteOrderMark) :
    let source := Source.ofText file text
    (text = "" -> ∀ position,
      source.locate position = { file, line := 0, column := 1, sourceLine := "" }) ∧
    (text ≠ "" -> ∀ before after, text.toList = before ++ after ->
      ∃ earlier head, before = earlier ++ head ∧
        (source.locate (bytes before)).Shows earlier head after) ∧
    (∀ position further, position ≤ further ->
      Diagnostic.Precedes (source.locate position) (source.locate further)) ∧
    (∀ before between after, text.toList = before ++ (between ++ after) ->
      (source.locate (bytes before) = source.locate (bytes (before ++ between)) ↔
        Text.columnsPassed between = 0)) ∧
    (∀ one other position further, position ≤ further ->
      one.location = source.locate position -> other.location = source.locate further ->
      inOrder one other = true) ∧
    ∀ (setup : Setup) (parsed : Parsed), source.parse .program = .ok parsed ->
      let found := (setup.run source parsed.program).1.told
      (∀ issue ∈ found, LocatedIn source issue) ∧
      (found ≠ [] -> ReportFollows source found) := by
  intro source
  have text_eq : source.text = text.toList := withoutMark_eq_self unmarked
  have inPlace {position further : Nat} (le : position ≤ further) :=
    place_locate_le source le
  refine ⟨?_, ?_, ?_, ?_, ?_, ?_⟩
  · rintro rfl position
    exact Text.locate_nil file position
  · intro nonempty before after split
    rw [Source.locate, text_eq, split]
    refine Text.exists_locate_shows (fun isEmpty => nonempty ?_) file
    rwa [← split, String.toList_eq_nil_iff] at isEmpty
  · exact fun position further le => precedes_iff_place_le.mpr (inPlace le)
  · intro before between after split
    rw [Source.locate, Source.locate, text_eq, split]
    exact Text.locate_eq_locate_iff file before between after
  · intro one other position further le located otherLocated
    rw [inOrder_iff_place_le, located, otherLocated]
    exact inPlace le
  · intro setup parsed parses found
    have own : SpansOwn parsed.program := spansOwn_of_parse (parse_text_of_parse parses)
    exact ⟨located_run own setup source, fun nonempty => reportFollows_of_ne_nil nonempty source⟩

/-! ## A class with a heritage -/

/-- A text with an error in the heritage of a class and another one in a member of it. -/
def heritageText : String :=
  "class A extends class \x7b m() \x7b throw Error(fooMinErr('a', 'b')) \x7d \x7d\n" ++
    "\x7b n() \x7b throw Error(barMinErr('c', 'd')) \x7d \x7d"

/-- That text as a source. -/
def heritageSource : Source := .ofText "app.js" heritageText

/-- The lines and columns of issues. -/
def lineAndColumns (issues : List Issue) : List (Nat × Nat) :=
  issues.map fun issue => (issue.location.line, issue.location.column)

/-- The heritage is visited after the members. -/
theorem run_heritageSource_evaluates :
    (match heritageSource.parse .program with
      | .ok parsed =>
          decide (lineAndColumns (usualSetup.run heritageSource parsed.program).1.told =
            [(2, 21), (1, 43)])
      | .error _ => false) = true := by
  decide +kernel

/-- The error in the heritage is found last, and the report has it first. -/
theorem locations_follow_source_sample :
    ∃ parsed found, heritageSource.parse .program = .ok parsed ∧
      (usualSetup.run heritageSource parsed.program).1.told = found ∧
      lineAndColumns found = [(2, 21), (1, 43)] ∧
      ReportFollows heritageSource found ∧
      Diagnostic.Precedes (heritageSource.locate 42) (heritageSource.locate 87) := by
  obtain ⟨_, _, inPlace, _, _, follows⟩ :=
    locations_follow_source "app.js" heritageText (by decide +kernel)
  have evaluates := run_heritageSource_evaluates
  cases parses : heritageSource.parse .program with
  | error failure => simp [parses] at evaluates
  | ok parsed =>
      simp only [parses, decide_eq_true_eq] at evaluates
      have nonempty : (usualSetup.run heritageSource parsed.program).1.told ≠ [] := by
        intro isEmpty
        rw [isEmpty] at evaluates
        cases evaluates
      obtain ⟨_, reported⟩ := follows usualSetup parsed parses
      exact ⟨parsed, _, rfl, rfl, evaluates, reported nonempty, inPlace 42 87 (by decide)⟩

/-- The end of a text after a line feed is shown on the line before, beyond the end of that line,
and an empty text is shown with the line zero. -/
theorem end_of_text_is_off_its_line :
    bytes "a\n".toList = 2 ∧
      (Source.ofText "test.js" "a\n").locate 2 =
        { file := "test.js", line := 1, column := 3, sourceLine := "a" } ∧
      ¬ "a\n".toList <+: "a".toList ∧
      ((Source.ofText "test.js" "").locate 0).line = 0 := by
  decide

end Extraction
end ErrorTemplates
