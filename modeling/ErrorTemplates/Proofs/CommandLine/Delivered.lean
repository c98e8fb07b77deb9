import ErrorTemplates.Proofs.CommandLine.Rejected
import ErrorTemplates.Proofs.CommandLine.Written

/-!
# Programs and their messages

The program is written before its messages. So a program can be there without its messages: when
the messages cannot be written, and when they are written over the program. An extraction that
succeeds has written both.
-/

namespace ErrorTemplates
namespace CommandLine

open Files
open Extraction (Setup Statistics Table)
open Diagnostic (Issue writeReport?)
open Program (Language)
open Text (Measure utf8)

/-- The path of the program, unless it goes to the standard output. -/
def programPath? (options : ExtractOptions) (directory : Path) : Option Path :=
  options.output.map fun output => directory.join output.toList

/-- The end of writing the program. -/
inductive ProgramDelivery
    [Host (StateM σ)]
    (view : View σ φ)
    (catalog : Catalog σ φ ι)
    (options : ExtractOptions)
    (directory : Path)
    (printed : String)
    (before : σ) : Except Failure Unit -> σ -> Prop
  /-- The program has a path. -/
  | toFile
      {path : Path}
      {result : Except Failure Unit}
      {after : σ}
      (isPath : programPath? options directory = some path)
      (delivery :
        Delivery catalog path printed (view.files before) result (view.files after)) :
      ProgramDelivery view catalog options directory printed before result after
  /-- The program goes to the standard output. If that fails, the beginning of it may be there. -/
  | toOutput
      {part : List UInt8}
      {result : Except Failure Unit}
      {after : σ}
      (noPath : options.output = none)
      (files_eq : view.files after = view.files before)
      (isPrefix : part <+: utf8 printed)
      (written_eq : view.written .output after = view.written .output before ++ part)
      (all : result = .ok () -> part = utf8 printed) :
      ProgramDelivery view catalog options directory printed before result after

/-- The ways in which an extraction whose run is completed can end. -/
inductive Deliveries
    [Measure]
    [Host (StateM σ)]
    (view : View σ φ)
    (catalog : Catalog σ φ ι)
    (inColour : Bool)
    (options : ExtractOptions)
    (directory messages : Path)
    (warnings : List Issue)
    (printed : String)
    (table : Table)
    (before : σ) : Except Failure Status -> σ -> Prop
  /-- The warnings cannot be reported, and nothing is written. -/
  | brokenOff
      {reason : String}
      {after : σ}
      (isBroken : writeReport? inColour warnings = none)
      (files_eq : view.files after = view.files before)
      (output_eq : options.output = none ->
        view.written .output after = view.written .output before) :
      Deliveries view catalog inColour options directory messages warnings printed table before
        (.error (.brokenOff reason)) after
  /-- The program is not written, and the messages are not written either. -/
  | neither
      {failure : Failure}
      {after : σ}
      (program :
        ProgramDelivery view catalog options directory printed before (.error failure) after) :
      Deliveries view catalog inColour options directory messages warnings printed table before
        (.error failure) after
  /-- The program is written, and then the messages are not. -/
  | programOnly
      {failure : Failure}
      {middle after : σ}
      (program :
        ProgramDelivery view catalog options directory printed before (.ok ()) middle)
      (delivery : Delivery catalog messages table.text (view.files middle) (.error failure)
        (view.files after))
      (output_eq : options.output = none ->
        view.written .output after = view.written .output middle) :
      Deliveries view catalog inColour options directory messages warnings printed table before
        (.error failure) after
  /-- The program is written, and then the messages are. -/
  | both
      {middle after : σ}
      (program :
        ProgramDelivery view catalog options directory printed before (.ok ()) middle)
      (delivery : Delivery catalog messages table.text (view.files middle) (.ok ())
        (view.files after))
      (output_eq : options.output = none ->
        view.written .output after = view.written .output middle) :
      Deliveries view catalog inColour options directory messages warnings printed table before
        (.ok .success) after

section
variable {σ φ ι : Type} [Host (StateM σ)] {view : View σ φ} {catalog : Catalog σ φ ι}
variable {inColour : Bool} {options : ExtractOptions} {directory messages : Path}
variable {printed : String}

/-- What happens before the program is written does not count if it cannot be seen there. -/
theorem ProgramDelivery.of_start
    {before start after : σ}
    {result : Except Failure Unit}
    (program : ProgramDelivery view catalog options directory printed start result after)
    (files_eq : view.files start = view.files before)
    (output_eq : options.output = none ->
      view.written .output start = view.written .output before) :
    ProgramDelivery view catalog options directory printed before result after := by
  cases program with
  | toFile isPath delivery => exact .toFile isPath (files_eq ▸ delivery)
  | toOutput noPath filesThen_eq isPrefix written_eq all =>
      exact .toOutput noPath (filesThen_eq.trans files_eq) isPrefix
        (output_eq noPath ▸ written_eq) all

/-- What an extraction that succeeds has delivered. -/
theorem Deliveries.of_success
    [Measure]
    {warnings : List Issue}
    {table : Table}
    {before after : σ}
    (deliveries : Deliveries view catalog inColour options directory messages warnings printed
      table before (.ok .success) after) :
    catalog.Holds (view.files after) messages table.text ∧
      (∀ path ∈ programPath? options directory,
        catalog.Holds (view.files after) path printed ↔
          (catalog.file? (view.files after) path = catalog.file? (view.files after) messages ->
            printed = table.text)) ∧
      (options.output = none ->
        view.written .output after = view.written .output before ++ utf8 printed) := by
  cases deliveries with
  | both program delivery output_eq =>
      refine ⟨delivery.holds, fun path isPath => ?_, fun noPath => ?_⟩
      · cases program with
        | toFile isPathToo first =>
            obtain rfl := Option.some.inj (isPathToo.symm.trans isPath)
            exact first.holds_first_iff delivery
        | toOutput noPath => simp [programPath?, noPath] at isPath
      · cases program with
        | toFile isPath => simp [programPath?, noPath] at isPath
        | toOutput _ _ _ written_eq all => rw [output_eq noPath, written_eq, all rfl]

variable (faithful : Faithful view) (stores : catalog.Stores view)
include faithful stores

theorem programDelivery_writeProgram
    (options : ExtractOptions)
    (directory : Path)
    (printed : String)
    (before : σ) :
    let done := perform (writeProgram options directory printed) before
    ProgramDelivery view catalog options directory printed before done.1 done.2 := by
  rw [writeProgram]
  cases hasPath : options.output with
  | none =>
      obtain ⟨files_eq, _, part, isPrefix, written_eq, all⟩ := faithful.say .output printed before
      simp only [perform_attempt]
      generalize (Host.say (m := StateM σ) .output printed).run before = said
        at files_eq written_eq all ⊢
      obtain ⟨error | _, after⟩ := said
      · exact .toOutput hasPath files_eq isPrefix written_eq (by simp)
      · exact .toOutput hasPath files_eq isPrefix written_eq fun _ => all rfl
  | some output =>
      have isPath : programPath? options directory = some (directory.join output.toList) := by
        rw [programPath?, hasPath, Option.map_some]
      exact .toFile isPath (delivery_makeParent_bind faithful stores before fun middle =>
        delivery_writeFile stores _ _ printed middle)

/-- After the program the messages are written, or the extraction fails. -/
theorem delivery_finishResults
    (inColour : Bool)
    (options : ExtractOptions)
    (messages : Path)
    (table : Table)
    (statistics : Statistics)
    (before : σ) :
    let done := perform (finishResults inColour options messages table statistics) before
    (done.1 = .ok .success ∧ Delivery catalog messages table.text (view.files before) (.ok ())
        (view.files done.2)) ∨
      ∃ failure, done.1 = .error failure ∧ Delivery catalog messages table.text
        (view.files before) (.error failure) (view.files done.2) := by
  intro done
  have done_eq : done = perform (finishResults inColour options messages table statistics)
    before := rfl
  have delivery := delivery_writeMessages faithful stores messages table before
  rw [finishResults, perform_bind] at done_eq
  generalize perform (writeMessages messages table) before = wrote at delivery done_eq
  obtain ⟨failure | _, middle⟩ := wrote
  · rw [done_eq]
    exact .inr ⟨failure, rfl, delivery⟩
  · have keeps : Keeps _ (fun _ => False) _ (tellResults (m := StateM σ) inColour options table
        statistics) :=
      (harmless_of_stores faithful stores middle).keeps_tellResults trivial trivial inColour table
        statistics
    obtain ⟨stays, never⟩ := keeps.performed (.refl _ _)
    simp only [perform_bind] at done_eq
    generalize perform (tellResults inColour options table statistics) middle = told
      at stays never done_eq
    obtain ⟨failure | _, after⟩ := told
    · exact (never failure rfl).elim
    · rw [done_eq]
      exact .inl ⟨rfl, delivery.then_stays stays⟩

/-- An extraction whose run is completed ends in one of these ways. -/
theorem deliveries_extractTemplates
    [Measure]
    [Language]
    {before : σ}
    {settings : Settings}
    {text : String}
    {setup : Setup}
    {warnings : List Issue}
    {table : Table}
    (ready : Ready options before directory settings text setup)
    (completes : Completes options text setup warnings printed table) :
    let done := perform (extractTemplates inColour options) before
    Deliveries view catalog inColour options directory settings.messages warnings printed table
      before done.1 done.2 := by
  obtain ⟨start, statistics, files_eq, output_eq, performed⟩ := perform_extractText_of_completes
    faithful inColour options directory settings.messages completes before
  rw [perform_extractTemplates_of_ready faithful ready]
  cases shown : writeReport? inColour warnings with
  | none =>
      rw [shown] at performed
      obtain ⟨reason, broken⟩ := performed
      rw [broken]
      exact .brokenOff shown files_eq output_eq
  | some report =>
      rw [shown] at performed
      rw [performed, writeResults, perform_bind]
      have program := (programDelivery_writeProgram faithful stores options directory printed
        start).of_start files_eq output_eq
      generalize perform (writeProgram options directory printed) start = wrote at program ⊢
      obtain ⟨failure | _, middle⟩ := wrote
      · exact .neither program
      · have output_eq (noPath : options.output = none) := output_finishResults faithful inColour
          options settings.messages noPath table statistics middle
        simp only
        rcases delivery_finishResults faithful stores inColour options settings.messages table
          statistics middle with ⟨succeeds, delivery⟩ | ⟨failure, fails, delivery⟩
        · rw [succeeds]
          exact .both program delivery output_eq
        · rw [fails]
          exact .programOnly program delivery output_eq

end

/-- After a completed run the program is written first and its messages after it, on whatever
system that stores files. So the program may be there, complete and without its messages, when they
cannot be written: then their file is as it was, or it has a beginning of them. When the extraction
succeeds the messages are where they were to go, and so is the program, unless the messages have
been written over it because both go to the same file. -/
theorem completed_run_delivers
    [Measure]
    [Language]
    {σ φ ι : Type}
    [Host (StateM σ)]
    {view : View σ φ}
    {catalog : Catalog σ φ ι}
    (faithful : Faithful view)
    (stores : catalog.Stores view)
    {options : ExtractOptions}
    {before : σ}
    {directory : Path}
    {settings : Settings}
    {text : String}
    {setup : Setup}
    {warnings : List Issue}
    {printed : String}
    {table : Table}
    (ready : Ready options before directory settings text setup)
    (completes : Completes options text setup warnings printed table)
    (inColour : Bool) :
    let done := perform (extractTemplates inColour options) before
    let files := view.files done.2
    Deliveries view catalog inColour options directory settings.messages warnings printed table
        before done.1 done.2 ∧
      (done.1 = .ok .success ->
        catalog.Holds files settings.messages table.text ∧
          (∀ path ∈ programPath? options directory, catalog.Holds files path printed ↔
            (catalog.file? files path = catalog.file? files settings.messages ->
              printed = table.text)) ∧
          (options.output = none ->
            view.written .output done.2 = view.written .output before ++ utf8 printed)) := by
  intro done files
  have deliveries : Deliveries view catalog inColour options directory settings.messages warnings
      printed table before done.1 done.2 :=
    deliveries_extractTemplates faithful stores ready completes
  refine ⟨deliveries, fun succeeds => ?_⟩
  rw [succeeds] at deliveries
  exact deliveries.of_success

/-- A world with an input that completes its run, and with a directory. -/
def completedWorld : World :=
  let input := sampleWorld "fooMinErr('a', 'b');\n"
  { input with tree := input.tree.set ["dir".toList] .directory }

/-- An extraction from that world delivers the program and its messages. -/
theorem completed_run_delivers_sample :
    let options := { sampleOptions with output := some "out.js" }
    let done := perform (extractTemplates false options) completedWorld
    let files := World.view.files done.2
    ∃ directory settings text setup warnings printed table,
      Ready options completedWorld directory settings text setup ∧
        Completes options text setup warnings printed table ∧ done.1 = .ok .success ∧
        World.catalog.Holds files settings.messages table.text ∧
        ∀ path ∈ programPath? options directory, World.catalog.Holds files path printed := by
  intro options done files
  have succeeds : done.1.toOption = some .success := by decide +kernel
  have filesDiffer : World.catalog.file? files "/out.js".toList ≠
      World.catalog.file? files "/errors.json".toList := by
    decide +kernel
  have messages_eq : (perform (settingsFor options "/".toList) completedWorld).1.toOption.map
      (·.messages) = some "/errors.json".toList := by
    decide +kernel
  have succeeded : done.1 = .ok .success := by
    cases result : done.1 with
    | error => simp [result, Except.toOption] at succeeds
    | ok status => simpa [result, Except.toOption] using succeeds
  have ends := ending World.faithful false options completedWorld
  change Ending World.view false options completedWorld done.1 done.2 at ends
  rw [succeeded] at ends
  obtain ⟨directory, settings, text, setup, warnings, printed, table, ready, completes⟩ :=
    ends.completes_of_success
  obtain rfl : "/".toList = directory := Except.ok.inj ready.found
  rw [ready.resolved] at messages_eq
  have messages_eq : settings.messages = "/errors.json".toList := Option.some.inj messages_eq
  obtain ⟨_, delivered⟩ := completed_run_delivers World.faithful World.stores ready completes false
  obtain ⟨holdsMessages, holdsProgram, _⟩ := delivered succeeded
  refine ⟨_, _, text, setup, warnings, printed, table, ready, completes, succeeded, holdsMessages,
    fun path isPath => (holdsProgram path isPath).mpr fun same => ?_⟩
  obtain rfl : "/out.js".toList = path := Option.some.inj isPath
  rw [messages_eq] at same
  exact absurd same filesDiffer

/-- The messages cannot be written where a directory is, but the program is there by then. -/
theorem program_delivered_without_messages :
    let options := { sampleOptions with output := some "out.js", messages := some "dir" }
    let done := perform (extractTemplates false options) completedWorld
    let files := World.view.files done.2
    done.1.toOption = none ∧ World.catalog.Holds files "out.js".toList "fooMinErr('a');\n" ∧
      World.catalog.file? files "dir".toList = none := by
  decide +kernel

/-- Messages that are written over the program replace it. -/
example :
    let options := { sampleOptions with output := some "out.js", messages := some "out.js" }
    let done := perform (extractTemplates false options) completedWorld
    done.1.toOption = some .success ∧
      World.catalog.Holds (World.view.files done.2) "out.js".toList
        "\x7b\"foo\":\x7b\"a\":\"b\"\x7d\x7d" := by
  decide +kernel

/-- When there is room for the program and a little more, the messages begin and do not end. -/
example :
    let options := { sampleOptions with output := some "out.js" }
    let done := perform (extractTemplates false options) { completedWorld with room := some 20 }
    let files := World.view.files done.2
    done.1.toOption = none ∧ World.catalog.Holds files "out.js".toList "fooMinErr('a');\n" ∧
      World.catalog.Holds files "errors.json".toList "\x7b\"fo" := by
  decide +kernel

end CommandLine
end ErrorTemplates
