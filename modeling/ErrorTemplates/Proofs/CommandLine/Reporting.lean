import ErrorTemplates.Proofs.CommandLine.Stages

/-!
# What becomes of an input

The input of an extraction that has got ready is rejected, or it gives a program and a table. An
input that is rejected is reported and nothing else is done. An input that is not may have warnings,
which are reported before the results are written. In both cases the extraction breaks off if a row
of the report cannot be written.
-/

namespace ErrorTemplates
namespace CommandLine

open Files
open Extraction (Setup Statistics Table)
open Diagnostic (Issue Row Styled writeReport?)
open Program (Language Source)
open Text (Measure utf8)

section
variable [Language]

/-- The input of an extraction that has got ready is rejected with some issues. -/
inductive Rejects (options : ExtractOptions) (text : String) (setup : Setup) : List Issue -> Prop
  /-- The input cannot be parsed. -/
  | unparsed
      {location : Text.Location}
      {reason : String}
      (isUnparsed : Language.parse (Source.ofText options.input text) .program =
        .error { location, reason }) : Rejects options text setup [.unreadable location reason]
  /-- The run is aborted. There are warnings before the error. -/
  | aborted
      {parsed : Program.Parsed}
      {error : Issue}
      {issues : List Issue}
      {left : Program}
      (isParsed : Language.parse (Source.ofText options.input text) .program = .ok parsed)
      (isAborted : setup.run (Source.ofText options.input text) parsed.program =
        (.aborted error issues, left)) : Rejects options text setup (issues ++ [error])

/-- The input of an extraction that has got ready gives warnings, a program and a table. -/
def Completes
    (options : ExtractOptions)
    (text : String)
    (setup : Setup)
    (warnings : List Issue)
    (printed : String)
    (table : Table) : Prop :=
  ∃ parsed statistics left,
    Language.parse (Source.ofText options.input text) .program = .ok parsed ∧
      setup.run (Source.ofText options.input text) parsed.program =
        (.completed table warnings statistics, left) ∧
      Language.print left parsed.comments = printed

/-- The input is rejected, or it gives a program and a table. -/
theorem rejects_or_completes (options : ExtractOptions) (text : String) (setup : Setup) :
    (∃ issues, Rejects options text setup issues) ∨
      ∃ warnings printed table, Completes options text setup warnings printed table := by
  cases parsed : Language.parse (Source.ofText options.input text) .program with
  | error failure => exact .inl ⟨_, .unparsed parsed⟩
  | ok program =>
      rcases ran : setup.run (Source.ofText options.input text) program.program with
        ⟨_ | _, left⟩
      · exact .inr ⟨_, _, _, program, _, left, parsed, ran, rfl⟩
      · exact .inl ⟨_, .aborted parsed ran⟩

end

/-- The time at which the input was parsed is told or not. -/
def IsTiming (inColour : Bool) (options : ExtractOptions) (timing : List String) : Prop :=
  timing = [] ∨ options.isVerbose = true ∧ ∃ nanoseconds,
    timing = [(Diagnostic.timingLine "parsed" nanoseconds).render inColour]

/-- All that is done is a report of issues where diagnostics go. A line with the time may come
before it. -/
def Reports
    [Measure]
    [Host (StateM σ)]
    (view : View σ φ)
    (inColour : Bool)
    (options : ExtractOptions)
    (issues : List Issue)
    (before after : σ) : Prop :=
  ∃ timing rows middle, IsTiming inColour options timing ∧
    (Diagnostic.reportRows issues).mapM (Row.write? inColour) = some rows ∧
      Tells view .errors timing before middle ∧ Tells view options.stream rows middle after

section
variable {σ φ : Type} [Host (StateM σ)] {view : View σ φ}

/-- A stream that takes everything has the whole report. -/
theorem Reports.written_eq
    [Measure]
    {inColour : Bool}
    {options : ExtractOptions}
    {issues : List Issue}
    {before after : σ}
    {shown : String}
    (reports : Reports view inColour options issues before after)
    (isShown : writeReport? inColour issues = some shown)
    (takesAll : TakesAll options.stream before) :
    ∃ timing, IsTiming inColour options timing ∧
      view.written options.stream after = view.written options.stream before ++
        (if options.output.isSome then [] else utf8 (String.join timing)) ++ utf8 shown := by
  obtain ⟨timing, rows, middle, isTiming, rows_eq, timed, told⟩ := reports
  obtain rfl : String.join rows = shown := by
    rw [writeReport?, rows_eq] at isShown
    exact Option.some.inj isShown
  refine ⟨timing, isTiming, ?_⟩
  rw [told.written_eq_of_takesAll (timed.takesAll takesAll)]
  congr 1
  cases hasPath : options.output.isSome with
  | true =>
      have toOutput : options.stream = .output := by simp [ExtractOptions.stream, hasPath]
      rw [toOutput, timed.others_eq .output (by decide), if_pos rfl, List.append_nil]
  | false =>
      have toErrors : options.stream = .errors := by simp [ExtractOptions.stream, hasPath]
      rw [toErrors] at takesAll ⊢
      rw [timed.written_eq_of_takesAll takesAll, if_neg Bool.false_ne_true]

variable (faithful : Faithful view)
variable (inColour : Bool) (options : ExtractOptions) (directory messages : Path)
include faithful

/-! ## Telling -/

theorem perform_offer (stream : Stream) (text : String) (before : σ) :
    ∃ after, perform (offer stream text) before = (.ok (), after) ∧
      Tells view stream [text] before after := by
  obtain ⟨files_eq, others_eq, part, isPrefix, written_eq, all⟩ := faithful.say stream text before
  refine ⟨_, rfl, files_eq, others_eq, fun takesAll => takesAll.say stream text, [part],
    .cons ⟨isPrefix, fun takesAll => ?_⟩ .nil, ?_⟩
  · exact all (takesAll.say_eq_ok text)
  · rw [List.flatten_singleton]
    exact written_eq

/-- Rows are told one after the other. If one of them cannot be written, this breaks off. -/
theorem perform_tellRows (stream : Stream) (rows : List Row) (before : σ) :
    ∃ result texts after, perform (tellRows inColour stream rows) before = (result, after) ∧
      Tells view stream texts before after ∧
        match rows.mapM (Row.write? inColour) with
        | some written => texts = written ∧ result = .ok ()
        | none => ∃ reason, result = .error (.brokenOff reason) := by
  -- Each row is told in the state that the rows before it have left.
  induction rows generalizing before with
  | nil => exact ⟨_, _, before, rfl, .refl view stream before, rfl, rfl⟩
  | cons row rest inductionHypothesis =>
      rw [tellRows, List.mapM_cons]
      cases row.write? inColour with
      | none => exact ⟨_, _, before, rfl, .refl view stream before, _, rfl⟩
      | some text =>
          obtain ⟨middle, offered, tells⟩ := perform_offer faithful stream text before
          obtain ⟨result, texts, after, performed, tellsThen, ends⟩ := inductionHypothesis middle
          refine ⟨result, text :: texts, after, ?_, tells.trans tellsThen, ?_⟩
          · simp only [perform_bind, offered, performed]
          · cases written : rest.mapM (Row.write? inColour) with
            | none => simpa [written] using ends
            | some others => simpa [written] using ends

/-- Before something is done the time may be told. -/
theorem perform_if_verbose (before : σ) :
    ∃ middle timing,
      (∀ next : ExceptT Failure (StateM σ) Status,
        perform (if options.isVerbose = true then tellTime inColour "parsed" >>= fun _ => next
          else next) before = perform next middle) ∧
        IsTiming inColour options timing ∧ Tells view .errors timing before middle := by
  cases isVerbose : options.isVerbose with
  | false => exact ⟨before, [], fun _ => rfl, .inl rfl, .refl view .errors before⟩
  | true =>
      rcases asked : (Host.elapsed (m := StateM σ)).run before with ⟨nanoseconds?, later⟩
      have untold : Tells view .errors [] before later := by
        have later_eq : later = ((Host.elapsed (m := StateM σ)).run before).2 := by rw [asked]
        rw [later_eq]
        exact ⟨faithful.elapsed before, fun stream _ => faithful.elapsed_written before stream,
          TakesAll.elapsed, [], .nil,
          (faithful.elapsed_written before .errors).trans (List.append_nil _).symm⟩
      cases nanoseconds? with
      | none =>
          refine ⟨later, [], fun next => ?_, .inl rfl, untold⟩
          simp only [if_pos, perform_bind, tellTime, perform_liftM, asked, perform_pure]
      | some nanoseconds =>
          obtain ⟨middle, offered, tells⟩ := perform_offer faithful .errors
            ((Diagnostic.timingLine "parsed" nanoseconds).render inColour) later
          refine ⟨middle, _, fun next => ?_, .inr ⟨isVerbose, nanoseconds, rfl⟩,
            untold.trans tells⟩
          simp only [if_pos, perform_bind, tellTime, perform_liftM, asked, tell, offered]

/-! ## Reporting -/

/-- Issues are told if their report can be written, and something else is done next. -/
theorem perform_tellIssues_bind
    [Measure]
    {timing : List String}
    {before later : σ}
    (isTiming : IsTiming inColour options timing)
    (timed : Tells view .errors timing before later)
    (issues : List Issue)
    (next : ExceptT Failure (StateM σ) Status) :
    ∃ middle, view.files middle = view.files before ∧
      (options.output = none -> view.written .output middle = view.written .output before) ∧
      match writeReport? inColour issues with
      | some _ => Reports view inColour options issues before middle ∧
          perform (tellIssues inColour options issues >>= fun _ => next) later =
            perform next middle
      | none => ∃ reason,
          perform (tellIssues inColour options issues >>= fun _ => next) later =
            (.error (.brokenOff reason), middle) := by
  obtain ⟨result, texts, middle, performed, told, ends⟩ := perform_tellRows faithful inColour
    options.stream (Diagnostic.reportRows issues) later
  refine ⟨middle, told.files_eq.trans timed.files_eq, fun noPath => ?_, ?_⟩
  · have toErrors : options.stream = .errors := by simp [ExtractOptions.stream, noPath]
    have isOther : Files.Stream.output ≠ options.stream := by simp [toErrors]
    exact (told.others_eq .output isOther).trans (timed.others_eq .output (by decide))
  · rw [writeReport?]
    cases written : (Diagnostic.reportRows issues).mapM (Row.write? inColour) with
    | some rows =>
        rw [written] at ends
        obtain ⟨rfl, rfl⟩ := ends
        refine ⟨⟨timing, _, later, isTiming, written, timed, told⟩, ?_⟩
        rw [perform_bind, tellIssues, performed]
    | none =>
        rw [written] at ends
        obtain ⟨reason, rfl⟩ := ends
        refine ⟨reason, ?_⟩
        rw [perform_bind, tellIssues, performed]

/-! ## Results -/

/-- When there are results the extraction succeeds or fails while it writes them. -/
theorem writeResults_result
    (printed : String)
    (table : Table)
    (statistics : Statistics)
    (before : σ) :
    let result := (perform (writeResults inColour options directory messages printed table
      statistics) before).1
    result ≠ .ok .failure ∧ ∀ failure, result = .error failure -> failure.stage = .writing := by
  have harmless := harmless_of_faithful faithful (fun _ => False) fun _ => []
  have keeps : Keeps _ (fun failure => failure.stage = .writing) _ (writeResults (m := StateM σ)
      inColour options directory messages printed table statistics) :=
    harmless.keeps_writeResults (fun _ => id) (by simp) (by simp) trivial (by simp) (by simp)
      inColour printed table statistics
  have nothingHeard : ∀ stream, False -> view.written stream before = [] := by simp
  refine ⟨?_, (keeps.performed nothingHeard).2⟩
  exact result_ne_of_bind (fun _ => result_ne_of_bind fun _ => result_ne_of_bind fun _ => by simp) _

/-- Without a path for the program nothing is written to the standard output after it. -/
theorem output_finishResults
    (noPath : options.output = none)
    (table : Table)
    (statistics : Statistics)
    (before : σ) :
    view.written .output (perform (finishResults inColour options messages table statistics)
      before).2 = view.written .output before := by
  have toErrors : options.stream = .errors := by simp [ExtractOptions.stream, noPath]
  have harmless := harmless_of_faithful faithful (· = .output) fun _ =>
    view.written .output before
  have keeps : Keeps _ (fun failure => failure.stage = .writing) _ (finishResults (m := StateM σ)
      inColour options messages table statistics) :=
    harmless.keeps_finishResults (fun _ => id) (by simp) (by simp [toErrors]) trivial inColour
      table statistics
  exact (keeps.performed (by simp)).1 .output rfl

/-- Without a path for the program the standard output gets a beginning of it, and all of it unless
that fails. -/
theorem output_writeResults
    (noPath : options.output = none)
    (printed : String)
    (table : Table)
    (statistics : Statistics)
    (before : σ) :
    let done := perform (writeResults inColour options directory messages printed table
      statistics) before
    ∃ part, part <+: utf8 printed ∧
      view.written .output done.2 = view.written .output before ++ part ∧
        ((∀ error, done.1 ≠ .error (.printProgram error)) -> part = utf8 printed) := by
  intro done
  have done_eq : done = perform (writeResults inColour options directory messages printed table
    statistics) before := rfl
  obtain ⟨_, _, part, isPrefix, written_eq, all⟩ := faithful.say .output printed before
  refine ⟨part, isPrefix, ?_⟩
  rw [writeResults, writeProgram, noPath, perform_bind, perform_attempt] at done_eq
  generalize (Host.say (m := StateM σ) .output printed).run before = said
    at written_eq all done_eq
  obtain ⟨error | _, middle⟩ := said
  · rw [done_eq]
    exact ⟨written_eq, fun otherwise => absurd rfl (otherwise error)⟩
  · -- Without a path the messages and what is told of them go elsewhere.
    have silent := output_finishResults faithful inColour options messages noPath table statistics
      middle
    rw [done_eq]
    exact ⟨silent.trans written_eq, fun _ => all rfl⟩

/-! ## Extracting -/

section
variable [Measure] [Language] {text : String} {setup : Setup}

/-- A rejected input is reported if that can be written, and ends the extraction. -/
theorem perform_extractText_of_rejects
    {issues : List Issue}
    (rejects : Rejects options text setup issues)
    (before : σ) :
    ∃ after, view.files after = view.files before ∧
      (options.output = none -> view.written .output after = view.written .output before) ∧
      match writeReport? inColour issues with
      | some _ => Reports view inColour options issues before after ∧
          perform (extractText inColour options directory messages setup text) before =
            (.ok .failure, after)
      | none => ∃ reason,
          perform (extractText inColour options directory messages setup text) before =
            (.error (.brokenOff reason), after) := by
  cases rejects with
  | unparsed isUnparsed =>
      simp only [extractText, isUnparsed]
      exact perform_tellIssues_bind faithful inColour options (.inl rfl)
        (.refl view .errors before) _ (pure .failure)
  | aborted isParsed isAborted =>
      obtain ⟨later, timing, skipped, isTiming, timed⟩ :=
        perform_if_verbose faithful inColour options before
      simp only [extractText, isParsed, extractParsed, isAborted, skipped]
      exact perform_tellIssues_bind faithful inColour options isTiming timed _ (pure .failure)

/-- What follows a completed run are its results, unless its warnings cannot be written. -/
theorem perform_extractText_of_completes
    {warnings : List Issue}
    {printed : String}
    {table : Table}
    (completes : Completes options text setup warnings printed table)
    (before : σ) :
    ∃ middle statistics, view.files middle = view.files before ∧
      (options.output = none -> view.written .output middle = view.written .output before) ∧
      match writeReport? inColour warnings with
      | some _ =>
          perform (extractText inColour options directory messages setup text) before =
            perform (writeResults inColour options directory messages printed table statistics)
              middle
      | none => ∃ reason,
          perform (extractText inColour options directory messages setup text) before =
            (.error (.brokenOff reason), middle) := by
  obtain ⟨parsed, statistics, left, isParsed, isCompleted, rfl⟩ := completes
  obtain ⟨later, timing, skipped, isTiming, timed⟩ :=
    perform_if_verbose faithful inColour options before
  simp only [extractText, isParsed, extractParsed, isCompleted, skipped]
  obtain ⟨middle, files_eq, output_eq, ends⟩ := perform_tellIssues_bind faithful inColour options
    isTiming timed warnings (writeResults inColour options directory messages
      (Language.print left parsed.comments) table statistics)
  refine ⟨middle, statistics, files_eq, output_eq, ?_⟩
  cases written : writeReport? inColour warnings with
  | some => rw [written] at ends; exact ends.2
  | none => rw [written] at ends; exact ends
end

end

end CommandLine
end ErrorTemplates
