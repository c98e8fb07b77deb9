import ErrorTemplates.Proofs.CommandLine.Reporting
import ErrorTemplates.Proofs.Diagnostic.Padding
import ErrorTemplates.Proofs.Parse.Blanks

/-!
# Failed extractions leave no trace

An extraction ends with a failure only when it has got ready and the input is rejected: it cannot
be parsed, or the run over it is aborted. Then the report of the reasons is all that there is
afterwards, and nothing at all is left of an extraction that does not get ready. Without a path for
the program the standard output gets the program or nothing, as far as it takes what is written.
-/

namespace ErrorTemplates
namespace CommandLine

open Files
open Extraction (Setup Table)
open Diagnostic (Issue writeReport?)
open Program (Language Source)
open Text (Measure utf8)

/-! ## Ways to end -/

section
variable [Measure] [Language] {σ φ : Type} [Host (StateM σ)] {view : View σ φ}

/-- The ways in which an extraction can end. -/
inductive Ending
    (view : View σ φ)
    (inColour : Bool)
    (options : ExtractOptions)
    (before : σ) : Except Failure Status -> σ -> Prop
  /-- It does not get ready and changes nothing. -/
  | unready
      {failure : Failure}
      (notReady : ∀ directory settings text setup,
        ¬ Ready options before directory settings text setup)
      (isEarly : failure.stage = .preparing) :
      Ending view inColour options before (.error failure) before
  /-- It breaks off when it tells of issues. -/
  | brokenOff
      {directory : Path}
      {settings : Settings}
      {text : String}
      {setup : Setup}
      {reason : String}
      {after : σ}
      (ready : Ready options before directory settings text setup)
      (output_eq : options.output = none ->
        view.written .output after = view.written .output before) :
      Ending view inColour options before (.error (.brokenOff reason)) after
  /-- Its input is rejected and the report is written. -/
  | rejected
      {directory : Path}
      {settings : Settings}
      {text : String}
      {setup : Setup}
      {issues : List Issue}
      {shown : String}
      {after : σ}
      (ready : Ready options before directory settings text setup)
      (rejects : Rejects options text setup issues)
      (isShown : writeReport? inColour issues = some shown)
      (files_eq : view.files after = view.files before)
      (output_eq : options.output = none ->
        view.written .output after = view.written .output before) :
      Ending view inColour options before (.ok .failure) after
  /-- Its run is completed. It succeeds or fails while it writes results. -/
  | completed
      {directory : Path}
      {settings : Settings}
      {text : String}
      {setup : Setup}
      {warnings : List Issue}
      {printed : String}
      {table : Table}
      {result : Except Failure Status}
      {after : σ}
      (ready : Ready options before directory settings text setup)
      (completes : Completes options text setup warnings printed table)
      (notFailure : result ≠ .ok .failure)
      (late : ∀ failure, result = .error failure -> failure.stage = .writing)
      (added : options.output = none -> ∃ part, part <+: utf8 printed ∧
        view.written .output after = view.written .output before ++ part ∧
          ((∀ error, result ≠ .error (.printProgram error)) -> part = utf8 printed)) :
      Ending view inColour options before result after

namespace Ending

variable {inColour : Bool} {options : ExtractOptions} {before after : σ}
variable {result : Except Failure Status}

/-- An extraction fails while it prepares exactly when it does not get ready. -/
theorem fails_early_iff (ends : Ending view inColour options before result after) :
    (∃ failure, result = .error failure ∧ failure.stage = .preparing) ↔
      ∀ directory settings text setup, ¬ Ready options before directory settings text setup := by
  cases ends with
  | unready notReady isEarly => exact iff_of_true ⟨_, rfl, isEarly⟩ notReady
  | brokenOff ready =>
      refine iff_of_false ?_ fun notReady => notReady _ _ _ _ ready
      rintro ⟨_, ⟨⟩, ⟨⟩⟩
  | rejected ready => exact iff_of_false (by simp) fun notReady => notReady _ _ _ _ ready
  | completed ready _ _ late =>
      refine iff_of_false ?_ fun notReady => notReady _ _ _ _ ready
      rintro ⟨failure, fails, isEarly⟩
      exact absurd ((late failure fails).symm.trans isEarly) (by decide)

/-- An extraction that ends with a failure or while it prepares changes no files, and writes nothing
to the standard output unless the program has a path. -/
theorem unchanged
    (ends : Ending view inColour options before result after)
    (fails : result = .ok .failure ∨
      ∃ failure, result = .error failure ∧ failure.stage = .preparing) :
    view.files after = view.files before ∧
      (options.output = none -> view.written .output after = view.written .output before) := by
  cases ends with
  | unready => exact ⟨rfl, fun _ => rfl⟩
  | brokenOff =>
      rcases fails with fails | ⟨failure, fails, isEarly⟩
      · simp at fails
      · obtain rfl := Except.error.inj fails
        simp [Failure.stage] at isEarly
  | rejected _ _ _ files_eq output_eq => exact ⟨files_eq, output_eq⟩
  | completed _ _ notFailure late =>
      rcases fails with fails | ⟨failure, fails, isEarly⟩
      · exact absurd fails notFailure
      · exact absurd ((late failure fails).symm.trans isEarly) (by decide)

/-- Unless the program has a path, the standard output gets the program or nothing, or a beginning
of the program if it takes no more. -/
theorem output_eq
    (ends : Ending view inColour options before result after)
    (noPath : options.output = none) :
    view.written .output after = view.written .output before ∨
      ∃ directory settings text setup warnings printed table,
        Ready options before directory settings text setup ∧
          Completes options text setup warnings printed table ∧
          ∃ part, part <+: utf8 printed ∧
            view.written .output after = view.written .output before ++ part ∧
              ((∀ error, result ≠ .error (.printProgram error)) -> part = utf8 printed) := by
  cases ends with
  | unready => exact .inl rfl
  | brokenOff _ output_eq => exact .inl (output_eq noPath)
  | rejected _ _ _ _ output_eq => exact .inl (output_eq noPath)
  | completed ready completes _ _ added =>
      exact .inr ⟨_, _, _, _, _, _, _, ready, completes, added noPath⟩

/-- An extraction that ends with a failure has got ready, its input is rejected, and the report can
be written. -/
theorem rejects_of_failure (ends : Ending view inColour options before (.ok .failure) after) :
    ∃ directory settings text setup issues shown,
      Ready options before directory settings text setup ∧ Rejects options text setup issues ∧
        writeReport? inColour issues = some shown := by
  cases ends with
  | rejected ready rejects isShown => exact ⟨_, _, _, _, _, _, ready, rejects, isShown⟩
  | completed _ _ notFailure => exact absurd rfl notFailure

/-- An extraction that succeeds has got ready and completed its run. -/
theorem completes_of_success (ends : Ending view inColour options before (.ok .success) after) :
    ∃ directory settings text setup warnings printed table,
      Ready options before directory settings text setup ∧
        Completes options text setup warnings printed table := by
  cases ends with
  | completed ready completes => exact ⟨_, _, _, _, _, _, _, ready, completes⟩

end Ending
end

section
variable [Measure] [Language] {σ φ : Type} [Host (StateM σ)] {view : View σ φ}
variable (faithful : Faithful view) (inColour : Bool) (options : ExtractOptions)
include faithful

section
variable {before : σ} {directory : Path} {settings : Settings} {text : String} {setup : Setup}
variable (ready : Ready options before directory settings text setup)
include ready

/-- An extraction of a rejected input ends with a failure, or it breaks off. -/
theorem ending_of_rejects
    {issues : List Issue}
    (rejects : Rejects options text setup issues) :
    Ending view inColour options before (perform (extractTemplates inColour options) before).1
      (perform (extractTemplates inColour options) before).2 := by
  rw [perform_extractTemplates_of_ready faithful ready]
  obtain ⟨after, files_eq, output_eq, ends⟩ := perform_extractText_of_rejects faithful inColour
    options directory settings.messages rejects before
  cases isShown : writeReport? inColour issues with
  | some shown =>
      rw [isShown] at ends
      rw [ends.2]
      exact .rejected ready rejects isShown files_eq output_eq
  | none =>
      rw [isShown] at ends
      obtain ⟨reason, performed⟩ := ends
      rw [performed]
      exact .brokenOff ready output_eq

/-- An extraction whose run is completed writes results, or it breaks off before. -/
theorem ending_of_completes
    {warnings : List Issue}
    {printed : String}
    {table : Table}
    (completes : Completes options text setup warnings printed table) :
    Ending view inColour options before (perform (extractTemplates inColour options) before).1
      (perform (extractTemplates inColour options) before).2 := by
  rw [perform_extractTemplates_of_ready faithful ready]
  obtain ⟨middle, statistics, files_eq, output_eq, ends⟩ := perform_extractText_of_completes
    faithful inColour options directory settings.messages completes before
  cases isShown : writeReport? inColour warnings with
  | some shown =>
      rw [isShown] at ends
      rw [ends]
      obtain ⟨notFailure, late⟩ := writeResults_result faithful inColour options directory
        settings.messages printed table statistics middle
      refine .completed ready completes notFailure late fun noPath => ?_
      rw [← output_eq noPath]
      exact output_writeResults faithful inColour options directory settings.messages noPath
        printed table statistics middle
  | none =>
      rw [isShown] at ends
      obtain ⟨reason, performed⟩ := ends
      rw [performed]
      exact .brokenOff ready output_eq

end

/-- Every extraction ends in one of these ways. -/
theorem ending (before : σ) :
    Ending view inColour options before (perform (extractTemplates inColour options) before).1
      (perform (extractTemplates inColour options) before).2 := by
  by_cases isReady : ∃ directory settings text setup,
      Ready options before directory settings text setup
  · obtain ⟨directory, settings, text, setup, ready⟩ := isReady
    rcases rejects_or_completes options text setup with ⟨issues, rejects⟩ |
      ⟨warnings, printed, table, completes⟩
    · exact ending_of_rejects faithful inColour options ready rejects
    · exact ending_of_completes faithful inColour options ready completes
  · simp only [not_exists] at isReady
    obtain ⟨failure, performed, isEarly⟩ :=
      perform_extractTemplates_of_not_ready faithful isReady inColour
    rw [performed]
    exact .unready isReady isEarly

end

/-- An extraction ends with a failure only when it has got ready and its input is rejected. When the
report of the reasons can be written, it does end with a failure then, and the report is all that it
does. It fails while it prepares exactly when it does not get ready. In both cases no file and no
directory is changed, and without a path for the program nothing is on the standard output. Without
such a path the standard output gets nothing or the program that a completed run leaves, whatever
happens, and less than the whole program only if the extraction fails because of that. -/
theorem failed_extraction_leaves_no_trace
    [Measure]
    [Language]
    {σ φ : Type}
    [Host (StateM σ)]
    {view : View σ φ}
    (faithful : Faithful view)
    (inColour : Bool)
    (options : ExtractOptions)
    (before : σ) :
    let done := perform (extractTemplates inColour options) before
    let failsEarly := ∃ failure, done.1 = .error failure ∧ failure.stage = .preparing
    (done.1 = .ok .failure ->
      ∃ directory settings text setup issues shown,
        Ready options before directory settings text setup ∧ Rejects options text setup issues ∧
          writeReport? inColour issues = some shown) ∧
    (∀ directory settings text setup issues shown,
      Ready options before directory settings text setup -> Rejects options text setup issues ->
        writeReport? inColour issues = some shown ->
          done.1 = .ok .failure ∧ Reports view inColour options issues before done.2 ∧
            (TakesAll options.stream before -> ∃ timing, IsTiming inColour options timing ∧
              view.written options.stream done.2 = view.written options.stream before ++
                (if options.output.isSome then [] else utf8 (String.join timing)) ++
                  utf8 shown)) ∧
    (failsEarly ↔ ∀ directory settings text setup,
      ¬ Ready options before directory settings text setup) ∧
    (done.1 = .ok .failure ∨ failsEarly -> view.files done.2 = view.files before ∧
      (options.output = none -> view.written .output done.2 = view.written .output before)) ∧
    (options.output = none ->
      view.written .output done.2 = view.written .output before ∨
        ∃ directory settings text setup warnings printed table,
          Ready options before directory settings text setup ∧
            Completes options text setup warnings printed table ∧
            ∃ part, part <+: utf8 printed ∧
              view.written .output done.2 = view.written .output before ++ part ∧
                ((∀ error, done.1 ≠ .error (.printProgram error)) -> part = utf8 printed)) := by
  intro done failsEarly
  have ends : Ending view inColour options before done.1 done.2 :=
    ending faithful inColour options before
  refine ⟨fun fails => ?_, ?_, ends.fails_early_iff, ends.unchanged, ends.output_eq⟩
  · rw [fails] at ends
    exact ends.rejects_of_failure
  · intro directory settings text setup issues shown ready rejects isShown
    obtain ⟨after, _, _, performed⟩ := perform_extractText_of_rejects faithful inColour options
      directory settings.messages rejects before
    rw [isShown] at performed
    obtain ⟨reports, performed⟩ := performed
    have done_eq : done = (.ok .failure, after) :=
      (perform_extractTemplates_of_ready faithful ready inColour).trans performed
    rw [done_eq]
    exact ⟨rfl, reports, reports.written_eq isShown⟩

/-! ## Samples -/

/-- The options of an extraction from the input of the samples. -/
def sampleOptions : ExtractOptions :=
  { input := "app.js"
    output := none
    messages := none
    replacement := none
    factory := none
    suffix := none
    isVerbose := false }

/-- A world with only the input. -/
def sampleWorld (input : String) : World :=
  { tree := { entries := [(["app.js".toList], .file input.toUTF8)] }, directory := [] }

/-- A world whose input has a second call with a name for a message. -/
def rejectedWorld : World := sampleWorld "fooMinErr('a', 'A');\nfooMinErr('b', message);\n"

/-- The extraction in that world leaves the files as they are and the standard output empty. The
report is all that it writes. -/
theorem failed_extraction_leaves_no_trace_sample :
    ∃ issues shown after,
      perform (extractTemplates false sampleOptions) rejectedWorld = (.ok .failure, after) ∧
        writeReport? false issues = some shown ∧ after.tree = rejectedWorld.tree ∧
        after.output.written = [] ∧ after.errors.written = utf8 shown := by
  have isFailure : (perform (extractTemplates false sampleOptions) rejectedWorld).1.toOption =
      some .failure := by
    decide +kernel
  have noTrace := failed_extraction_leaves_no_trace World.faithful false sampleOptions
    rejectedWorld
  generalize perform (extractTemplates false sampleOptions) rejectedWorld = done
    at isFailure noTrace ⊢
  obtain ⟨result, after⟩ := done
  obtain ⟨isRejected, reports, _, unchanged, _⟩ := noTrace
  cases result with
  | error => simp [Except.toOption] at isFailure
  | ok status =>
      obtain rfl : status = .failure := by simpa [Except.toOption] using isFailure
      obtain ⟨_, _, _, _, issues, shown, ready, rejects, isShown⟩ := isRejected rfl
      obtain ⟨files_eq, output_eq⟩ := unchanged (.inl rfl)
      obtain ⟨_, _, written⟩ := reports _ _ _ _ issues shown ready rejects isShown
      obtain ⟨timing, noTiming | ⟨isVerbose, _⟩, written_eq⟩ := written (World.takesAll rfl)
      · rw [noTiming, Text.utf8_join] at written_eq
        exact ⟨issues, shown, after, rfl, isShown, congrArg Prod.fst files_eq, output_eq rfl,
          written_eq⟩
      · cases isVerbose

/-- The settings of an extraction in the world of the samples. -/
def sampleSettings : Settings :=
  { naming := { factory := "minErr", suffix := "MinErr" }
    replacement := none
    messages := "/errors.json".toList }

/-- Whatever its input is, an extraction in the world of the samples gets ready. -/
theorem ready_sampleWorld (input : String) :
    Ready sampleOptions (sampleWorld input) "/".toList sampleSettings input
      { naming := sampleSettings.naming, replacement := none } where
  found := rfl
  resolved := rfl
  read := by
    have found : (sampleWorld input).tree.lookup [] "/app.js".toList = .ok (.file input.toUTF8) :=
      rfl
    exact Tree.readText_eq_ok found
  accepted := rfl

/-- A world whose input is a brace that stands too far into its line for a report. -/
def farWorld : World := sampleWorld (String.ofList (Program.braceAfter 65536))

/-- A world with a call, in which the standard output takes so many bytes. -/
def narrowWorld (room : Option Nat) : World :=
  { sampleWorld "fooMinErr('a', 'b');\n" with output := { room } }

/-- The issue that is found there. -/
def farIssue : Issue :=
  .unreadable (Text.locate "app.js" (Program.braceAfter 65536) 65536) "Expression expected"

theorem rejects_farWorld (setup : Setup) :
    Rejects sampleOptions (String.ofList (Program.braceAfter 65536)) setup [farIssue] := by
  have source_eq : Source.ofText sampleOptions.input (String.ofList (Program.braceAfter 65536)) =
      { file := "app.js", text := Program.braceAfter 65536 } := by
    rw [Source.ofText, String.toList_ofList, Program.withoutMark_braceAfter, sampleOptions]
  have isUnparsed : Language.parse
      (Source.ofText sampleOptions.input (String.ofList (Program.braceAfter 65536))) .program =
        .error
          { location := Text.locate "app.js" (Program.braceAfter 65536) 65536
            reason := "Expression expected" } := by
    rw [source_eq, Language.parse_eq]
    exact Source.parse_eq_error Program.parse_braceAfter
  exact .unparsed isUnparsed

/-- The caret of that issue stands too far into its line. -/
theorem writeReport?_farIssue : writeReport? false [farIssue] = none := by
  have printable : ∀ character ∈ List.replicate 65536 ' ', Text.isPrintable character = true := by
    intro character present
    rw [List.eq_of_mem_replicate present]
    rfl
  have indent := Diagnostic.caretIndent_locate_of_isPrintable printable
    (List.cons_ne_nil '}' []) "app.js"
  rw [Program.bytes_replicate, List.length_replicate] at indent
  have indent_eq : Diagnostic.caretIndent farIssue.location = 65536 := by
    simp only [farIssue, Issue.location]
    exact indent
  have tooFar : ¬ ∀ padding ∈ Diagnostic.paddings [farIssue],
      padding ≤ Diagnostic.widestPadding := by
    intro fit
    have fits := fit _ (Diagnostic.mem_paddings_iff.mpr ⟨_, List.mem_cons_self, .inr rfl⟩)
    rw [indent_eq] at fits
    exact absurd fits (by decide)
  rw [Diagnostic.writeReport?_eq, if_neg tooFar]

/-- An extraction whose input is rejected may break off instead of ending with a failure. And an
output that does not take the whole program has a part of it, which is neither the program nor
nothing. -/
theorem rejection_breaks_off_and_output_gets_part :
    (∃ directory settings text setup issues,
      Ready sampleOptions farWorld directory settings text setup ∧
        Rejects sampleOptions text setup issues ∧
        (perform (extractTemplates false sampleOptions) farWorld).1 ≠ .ok .failure) ∧
    let narrow := perform (extractTemplates false sampleOptions) (narrowWorld (some 3))
    let whole := perform (extractTemplates false sampleOptions) (narrowWorld none)
    whole.1.toOption = some .success ∧ narrow.1.toOption = none ∧
      narrow.2.output.written ≠ [] ∧ narrow.2.output.written ≠ whole.2.output.written := by
  constructor
  · have ready := ready_sampleWorld (String.ofList (Program.braceAfter 65536))
    have rejects := rejects_farWorld { naming := sampleSettings.naming, replacement := none }
    refine ⟨_, _, _, _, _, ready, rejects, ?_⟩
    obtain ⟨_, _, _, broken⟩ := perform_extractText_of_rejects World.faithful false sampleOptions
      "/".toList sampleSettings.messages rejects farWorld
    rw [writeReport?_farIssue] at broken
    obtain ⟨reason, performed⟩ := broken
    rw [farWorld, perform_extractTemplates_of_ready World.faithful ready]
    rw [farWorld] at performed
    rw [performed]
    simp
  · decide +kernel

end CommandLine
end ErrorTemplates