import ErrorTemplates.Diagnostic.Summary
import ErrorTemplates.Proofs.Diagnostic.Padding

/-!
# Escape sequences

A styled piece of text stands between two escape sequences and is otherwise written as it is. So
if no text has an escape character of its own, an output with colours is the output without them
once its escape sequences are left out.
-/

namespace ErrorTemplates
namespace Diagnostic

open Text (Measure isPrintable)

/-! ## Leaving out escape sequences -/

/-- A text without the sequences from an escape character and a bracket to the next `m`. What has
been read of a sequence is held back and is text after all if the sequence never ends. -/
def dropEscapes : (held : Option (List Char)) -> List Char -> List Char
  | none, [] => []
  | some held, [] => held
  | some held, character :: rest =>
      if character = 'm' then dropEscapes none rest
      else dropEscapes (some (held ++ [character])) rest
  | none, '\x1b' :: '[' :: rest => dropEscapes (some ['\x1b', '[']) rest
  | none, character :: rest => character :: dropEscapes none rest

/-- A text without its escape sequences. -/
def withoutEscapes (text : String) : String := String.ofList (dropEscapes none text.toList)

theorem dropEscapes_append_of_notMem
    {text : List Char}
    (clean : '\x1b' ∉ text)
    (rest : List Char) : dropEscapes none (text ++ rest) = text ++ dropEscapes none rest := by
  induction text with
  | nil => rfl
  | cons character text inductionHypothesis =>
      obtain ⟨notEscape, cleanText⟩ := not_or.mp (List.mem_cons.not.mp clean)
      rw [List.cons_append, dropEscapes, inductionHypothesis cleanText, List.cons_append]
      rintro others isEscape
      exact absurd isEscape.symm notEscape

/-- Nothing of a sequence is left once its end is read. -/
theorem dropEscapes_held
    {codes : List Char}
    (unfinished : 'm' ∉ codes)
    (held rest : List Char) :
    dropEscapes (some held) (codes ++ 'm' :: rest) = dropEscapes none rest := by
  induction codes generalizing held with
  | nil => simp [dropEscapes]
  | cons code codes inductionHypothesis =>
      obtain ⟨notEnd, unfinishedCodes⟩ := not_or.mp (List.mem_cons.not.mp unfinished)
      rw [List.cons_append, dropEscapes, if_neg (Ne.symm notEnd),
        inductionHypothesis unfinishedCodes]

/-- The codes of a sequence up to its end. -/
theorem exists_opening_eq (style : Style) :
    ∃ codes, style.opening.toList = '\x1b' :: '[' :: (codes ++ ['m']) ∧ 'm' ∉ codes := by
  refine ⟨(String.intercalate ";" style.codes).toList, ?_, ?_⟩
  · simp [Style.opening]
  · obtain ⟨isBold, isDimmed, colour⟩ := style
    rcases colour with _ | colour
    · cases isBold <;> cases isDimmed <;> decide
    · cases isBold <;> cases isDimmed <;> cases colour <;> decide

theorem dropEscapes_opening (style : Style) (rest : List Char) :
    dropEscapes none (style.opening.toList ++ rest) = dropEscapes none rest := by
  obtain ⟨codes, opening_eq, unfinished⟩ := exists_opening_eq style
  rw [opening_eq]
  simp only [List.cons_append, List.append_assoc, List.nil_append, dropEscapes]
  exact dropEscapes_held unfinished _ _

theorem dropEscapes_resetting (rest : List Char) :
    dropEscapes none (resetting.toList ++ rest) = dropEscapes none rest := by
  have unfinished : 'm' ∉ ['0'] := by decide
  exact dropEscapes_held unfinished _ _

/-! ## Pieces -/

/-- A text has no escape character. -/
structure IsClean (text : String) : Prop where
  notMem : '\x1b' ∉ text.toList

theorem isClean_iff {text : String} : IsClean text ↔ '\x1b' ∉ text.toList :=
  ⟨fun clean => clean.notMem, fun notMem => ⟨notMem⟩⟩

/-- Without an escape character no style ends within a text. -/
theorem restyled_of_notMem
    {text : List Char}
    (clean : '\x1b' ∉ text)
    (opening : List Char) : restyled opening text = text := by
  induction text with
  | nil => rfl
  | cons character text inductionHypothesis =>
      obtain ⟨notEscape, cleanText⟩ := not_or.mp (List.mem_cons.not.mp clean)
      rw [restyled, inductionHypothesis cleanText]
      rintro others isEscape
      exact absurd isEscape.symm notEscape

/-- The escape sequences around a clean text are those of its style. -/
theorem dropEscapes_render
    {piece : Piece}
    (clean : IsClean piece.text)
    (rest : List Char) :
    dropEscapes none ((piece.render true).toList ++ rest) =
      piece.text.toList ++ dropEscapes none rest := by
  rw [Piece.render]
  split
  · simp only [String.toList_append, String.toList_ofList, List.append_assoc]
    rw [dropEscapes_opening, restyled_of_notMem clean.notMem,
      dropEscapes_append_of_notMem clean.notMem, dropEscapes_resetting]
  · exact dropEscapes_append_of_notMem clean.notMem rest

/-- No piece of a text has an escape character. -/
def Styled.IsClean (styled : Styled) : Prop := ∀ piece ∈ styled, Diagnostic.IsClean piece.text

/-- Colours only add escape sequences to clean text. -/
theorem Styled.IsClean.withoutEscapes_render {styled : Styled} (clean : styled.IsClean) :
    withoutEscapes (styled.render true) = styled.render false := by
  have dropped : dropEscapes none (styled.render true).toList = (styled.render false).toList := by
    induction styled with
    | nil => rfl
    | cons piece rest inductionHypothesis =>
        obtain ⟨cleanPiece, cleanRest⟩ := List.forall_mem_cons.mp clean
        have render_cons (inColour : Bool) : Styled.render inColour (piece :: rest) =
            piece.render inColour ++ Styled.render inColour rest := by
          simp [Styled.render]
        rw [render_cons, render_cons, String.toList_append, String.toList_append,
          dropEscapes_render cleanPiece, inductionHypothesis cleanRest,
          Piece.render_without_colour]
  rw [withoutEscapes, dropped, String.ofList_toList]

/-! ## Clean texts -/

@[simp] theorem isClean_append {one other : String} :
    IsClean (one ++ other) ↔ IsClean one ∧ IsClean other := by
  simp [isClean_iff]

theorem isClean_of_all_isPrintable
    {text : String}
    (printable : text.toList.all isPrintable = true) : IsClean text where
  notMem := fun present => absurd (List.all_eq_true.mp printable _ present) (by decide)

@[simp] theorem isClean_blanks (count : Nat) : IsClean (blanks count) :=
  isClean_of_all_isPrintable (all_isPrintable_blanks count)

@[simp] theorem isClean_repr (number : Nat) : IsClean number.repr :=
  isClean_of_all_isPrintable (all_isPrintable_toString number)

theorem isClean_counted
    {one several : String}
    (cleanOne : IsClean one)
    (cleanSeveral : IsClean several)
    (count : Nat) : IsClean (counted count one several) := by
  rw [counted]
  split
  · exact cleanOne
  · exact cleanSeveral

theorem isClean_name (argument : Argument) : IsClean argument.name := by
  cases argument <;> simp [isClean_iff, Argument.name]

/-! ## Outputs -/

/-- The texts that an issue carries. -/
def Issue.texts : Issue -> List String
  | .notConstant location space _ => [location.file, location.sourceLine, space]
  | .wrapped location space code => [location.file, location.sourceLine, space, code]
  | .ambiguous location factory _ => [location.file, location.sourceLine, factory]
  | .unreadable location reason => [location.file, location.sourceLine, reason]

section
variable {issue : Issue} (clean : ∀ text ∈ issue.texts, IsClean text)
include clean

theorem isClean_file : IsClean issue.location.file := by
  cases issue <;> exact clean _ List.mem_cons_self

theorem isClean_sourceLine : IsClean issue.location.sourceLine := by
  cases issue <;> exact clean _ (List.mem_cons_of_mem _ List.mem_cons_self)

theorem isClean_message : IsClean issue.message := by
  cases issue with
  | notConstant location space argument =>
      dsimp only [Issue.message]
      simp only [isClean_append]
      refine ⟨⟨?_, isClean_name argument⟩, ?_⟩ <;> simp [isClean_iff]
  | wrapped location space code =>
      obtain ⟨_, _, cleanSpace, cleanCode⟩ : IsClean location.file ∧ IsClean location.sourceLine ∧
          IsClean space ∧ IsClean code := by simpa [Issue.texts] using clean
      dsimp only [Issue.message]
      simp only [isClean_append]
      refine ⟨⟨⟨⟨?_, cleanSpace⟩, ?_⟩, cleanCode⟩, ?_⟩ <;> simp [isClean_iff]
  | ambiguous location factory count =>
      obtain ⟨_, _, cleanFactory⟩ : IsClean location.file ∧ IsClean location.sourceLine ∧
          IsClean factory := by simpa [Issue.texts] using clean
      dsimp only [Issue.message]
      simp only [isClean_append]
      refine ⟨⟨⟨⟨?_, isClean_repr count⟩, ?_⟩, cleanFactory⟩, ?_⟩ <;> simp [isClean_iff]
  | unreadable location reason =>
      exact clean _ (List.mem_cons_of_mem _ (List.mem_cons_of_mem _ List.mem_cons_self))

theorem isClean_hint {hint : String} (hasHint : issue.hint = some hint) : IsClean hint := by
  cases issue with
  | notConstant location space argument =>
      obtain ⟨_, _, cleanSpace⟩ : IsClean location.file ∧ IsClean location.sourceLine ∧
          IsClean space := by simpa [Issue.texts] using clean
      cases hasHint
      simp only [isClean_append]
      refine ⟨⟨⟨⟨?_, isClean_name argument⟩, ?_⟩, cleanSpace⟩, ?_⟩ <;> simp [isClean_iff]
  | wrapped location space code =>
      cases hasHint
      simp [isClean_iff]
  | ambiguous location factory count => cases hasHint
  | unreadable location reason => cases hasHint

theorem isClean_issueLines [Measure] (width : Nat) : (issueLines width issue).IsClean := by
  have cleanName : IsClean (severityName issue.severity) := by
    cases issue.severity <;> simp [isClean_iff, severityName]
  have cleanRule : IsClean issue.rule := by
    cases issue <;> simp [isClean_iff, Issue.rule]
  have cleanFile := isClean_file clean
  have cleanLine := isClean_sourceLine clean
  have cleanMessage := isClean_message clean
  have cleanLiterals : IsClean ": " ∧ IsClean "  " ∧ IsClean " " ∧ IsClean ":" ∧ IsClean "\n" ∧
      IsClean "-->" ∧ IsClean "|" ∧ IsClean "^" ∧ IsClean "=" ∧ IsClean "hint:" := by
    simp [isClean_iff]
  cases hint_eq : issue.hint with
  | none =>
      simp [Styled.IsClean, issueLines, issueRows, Row.styled, hint_eq, gap, bare, Piece.plain,
        lineEnd, rule, padded,
        cleanName, cleanRule, cleanFile, cleanLine, cleanMessage, cleanLiterals]
  | some hint =>
      have cleanHint := isClean_hint clean hint_eq
      simp [Styled.IsClean, issueLines, issueRows, Row.styled, hint_eq, gap, bare, Piece.plain,
        lineEnd, rule, padded,
        cleanName, cleanRule, cleanFile, cleanLine, cleanMessage, cleanHint, cleanLiterals]

end

theorem isClean_summaryLine (issues : List Issue) : (summaryLine issues).IsClean := by
  have cleanLiterals : IsClean "✘" ∧ IsClean " " ∧ IsClean " problems (" ∧ IsClean ", " ∧
      IsClean ")" ∧ IsClean "\n" := by
    simp [isClean_iff]
  have cleanErrors : ∀ count, IsClean (counted count "error" "errors") :=
    isClean_counted (by simp [isClean_iff]) (by simp [isClean_iff])
  have cleanWarnings : ∀ count, IsClean (counted count "warning" "warnings") :=
    isClean_counted (by simp [isClean_iff]) (by simp [isClean_iff])
  simp [Styled.IsClean, summaryLine, failureMark, Piece.plain, lineEnd, cleanLiterals, cleanErrors,
    cleanWarnings]

/-- A report of issues whose texts are clean is clean. -/
theorem isClean_report
    [Measure]
    {issues : List Issue}
    (clean : ∀ issue ∈ issues, ∀ text ∈ issue.texts, IsClean text) :
    (report issues).IsClean := by
  by_cases isEmpty : issues = []
  · rw [isEmpty, report_nil]
    exact List.forall_mem_nil _
  · rw [report_eq isEmpty]
    intro piece present
    rcases List.mem_append.mp present with inLines | inSummary
    · obtain ⟨lines, listed, inLines⟩ := List.mem_flatten.mp inLines
      obtain ⟨issue, sortedIssue, rfl⟩ := List.mem_map.mp listed
      exact isClean_issueLines (clean issue (List.mem_mergeSort.mp sortedIssue)) _ _ inLines
    · exact isClean_summaryLine _ _ inSummary

theorem isClean_successLine
    {file : String}
    (clean : IsClean file)
    (templates spaces : Nat) : (successLine file templates spaces).IsClean := by
  have cleanLiterals : IsClean "✓" ∧ IsClean " " ∧ IsClean "Extracted " ∧ IsClean " in " ∧
      IsClean " from " ∧ IsClean "\n" := by
    simp [isClean_iff]
  have cleanTemplates : ∀ count, IsClean (counted count "template" "templates") :=
    isClean_counted (by simp [isClean_iff]) (by simp [isClean_iff])
  have cleanSpaces : ∀ count, IsClean (counted count "namespace" "namespaces") :=
    isClean_counted (by simp [isClean_iff]) (by simp [isClean_iff])
  simp [Styled.IsClean, successLine, successMark, Piece.plain, lineEnd, clean, cleanLiterals,
    cleanTemplates, cleanSpaces]

theorem isClean_statisticsLines (statistics : Extraction.Statistics) :
    (statisticsLines statistics).IsClean := by
  have cleanLiterals : IsClean "matched" ∧ IsClean " " ∧ IsClean " minErr call(s): " ∧
      IsClean " rewritten, " ∧ IsClean " left inside throw" ∧ IsClean "duplicate" ∧
      IsClean " code(s) recorded more than once; the last template wins" ∧
      IsClean "definition" ∧ IsClean "\n" := by
    simp [isClean_iff]
  have cleanFate : IsClean (definitionFate statistics) := by
    rw [definitionFate]
    split
    · simp [isClean_iff]
    · split
      · simp [isClean_iff]
      · exact isClean_append.mpr ⟨isClean_repr _, by simp [isClean_iff]⟩
  rw [statisticsLines, statisticsRows]
  split <;> simp [Styled.IsClean, Piece.plain, lineEnd, cleanLiterals, cleanFate]

/-- Colours add nothing but escape sequences to what is told about texts that have none: left out,
they leave the report, the line of a success and the lines of the counters as they are without
colours. A report that cannot be written in colours cannot be written without them either. -/
theorem colours_only_add_escapes
    [Measure]
    {issues : List Issue}
    {file : String}
    (cleanIssues : ∀ issue ∈ issues, ∀ text ∈ issue.texts, IsClean text)
    (cleanFile : IsClean file)
    (templates spaces : Nat)
    (statistics : Extraction.Statistics) :
    withoutEscapes ((report issues).render true) = (report issues).render false ∧
      (writeReport? true issues).map withoutEscapes = writeReport? false issues ∧
      withoutEscapes ((successLine file templates spaces).render true) =
        (successLine file templates spaces).render false ∧
      withoutEscapes ((statisticsLines statistics).render true) =
        (statisticsLines statistics).render false := by
  have reported := (isClean_report cleanIssues).withoutEscapes_render
  have written : (writeReport? true issues).map withoutEscapes = writeReport? false issues := by
    rw [writeReport?_eq, writeReport?_eq, ← reported]
    split <;> rfl
  exact ⟨reported, written, (isClean_successLine cleanFile templates spaces).withoutEscapes_render,
    (isClean_statisticsLines statistics).withoutEscapes_render⟩

/-- An error that is wrapped and thrown. -/
def wrappedIssue : Issue :=
  .wrapped { file := "app.js", line := 2, column := 3, sourceLine := "  throw new Error(e);" }
    "foo" "a"

/-- Two calls that gave one code, and a factory that was replaced. -/
def someStatistics : Extraction.Statistics :=
  { calls := 2
    stripped := 2
    duplicates := 1
    wrapped := 0
    definitions := 1
    substituted := true }

theorem colours_only_add_escapes_sample :
    (∀ text ∈ wrappedIssue.texts, IsClean text) ∧ IsClean "app.js" ∧
      withoutEscapes ((report [wrappedIssue]).render true) =
        (report [wrappedIssue]).render false ∧
      (writeReport? true [wrappedIssue]).map withoutEscapes =
        writeReport? false [wrappedIssue] ∧
      withoutEscapes ((successLine "app.js" 2 1).render true) =
        (successLine "app.js" 2 1).render false ∧
      withoutEscapes ((statisticsLines someStatistics).render true) =
        (statisticsLines someStatistics).render false := by
  have cleanTexts : ∀ text ∈ wrappedIssue.texts, IsClean text := by
    simp [wrappedIssue, Issue.texts, isClean_iff]
  have cleanFile : IsClean "app.js" := by simp [isClean_iff]
  exact ⟨cleanTexts, cleanFile, colours_only_add_escapes
    (List.forall_mem_singleton.mpr cleanTexts) cleanFile 2 1 someStatistics⟩

end Diagnostic
end ErrorTemplates
