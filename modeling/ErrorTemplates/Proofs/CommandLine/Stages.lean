import ErrorTemplates.Proofs.CommandLine.Keeping
import ErrorTemplates.Proofs.CommandLine.Perform
import ErrorTemplates.Proofs.Files.Faithful

/-!
# The stages of an extraction

An extraction first gets ready: it finds out what it works with and reads the input, which
changes nothing. Then it parses the input, makes a run over it and reports. Only when the run is
completed are there results, and only then does it write anything but diagnostics.
-/

namespace ErrorTemplates

open Files

namespace CommandLine

open Extraction (Naming Setup Table)
open Program (Language Source)

/-! ## Keeping and performing -/

section
variable {σ α : Type} {before : σ}

/-- What an action that is followed ends with is what becomes of the state. -/
theorem performed_of_ends
    {isFailure : Failure -> σ -> Prop}
    {isEnd : α -> σ -> Prop}
    {action : ExceptT Failure (StateM σ) α}
    (ends : ((Semantics.states σ).failing isFailure).Ends action before isEnd) :
    (∃ result after, perform action before = (.ok result, after) ∧ isEnd result after) ∨
      ∃ failure after, perform action before = (.error failure, after) ∧
        isFailure failure after := by
  have perform_eq : action.run.run before = perform action before := rfl
  simp only [Semantics.failing, Semantics.states, perform_eq] at ends
  generalize perform action before = done at ends ⊢
  rcases done with ⟨failure | result, after⟩
  · exact .inr ⟨failure, after, rfl, ends⟩
  · exact .inl ⟨result, after, rfl, ends⟩

/-- What is kept holds afterwards, and every failure is of the kind. -/
theorem Keeps.performed
    {kind : Failure -> Prop}
    {holds : σ -> Prop}
    {action : ExceptT Failure (StateM σ) α}
    (keeps : Keeps (Semantics.states σ) kind holds action)
    (held : holds before) :
    holds (perform action before).2 ∧
      ∀ failure, (perform action before).1 = .error failure -> kind failure := by
  rcases performed_of_ends (keeps before held) with
    ⟨_, after, performed, heldThen⟩ | ⟨failure, after, performed, isKind, heldThen⟩
  · rw [performed]
    exact ⟨heldThen, by simp⟩
  · rw [performed]
    refine ⟨heldThen, fun _ fails => ?_⟩
    obtain rfl := Except.error.inj fails
    exact isKind

end

section
variable {σ φ : Type} [Host (StateM σ)]

/-! ## Getting ready -/

/-- The working directory is known, the settings are found, the input is read and the
replacement is accepted. -/
structure Ready
    [Language]
    (options : ExtractOptions)
    (before : σ)
    (directory : Path)
    (settings : Settings)
    (text : String)
    (setup : Setup) : Prop where
  /-- The working directory is known. -/
  found : ((Host.currentDirectory (m := StateM σ)).run before).1 = .ok directory
  /-- The settings are found. -/
  resolved : (perform (settingsFor options directory) before).1 = .ok settings
  /-- The input is a text. -/
  read : ((Host.readText (m := StateM σ) (directory.join options.input.toList)).run before).1 =
    .ok text
  /-- The replacement is accepted. -/
  accepted : Setup.ofText settings.naming settings.replacement = .ok setup

variable {view : View σ φ} (faithful : Faithful view)
include faithful

/-- To ask changes nothing. -/
theorem asking_of_faithful (before : σ) :
    Asking (Semantics.states σ) (· = before) fun _ => True where
  pathExists path := by
    rintro _ rfl
    exact faithful.pathExists path _
  isDirectory path := by
    rintro _ rfl
    exact faithful.isDirectory path _
  readText {path} _ := by
    rintro _ rfl
    exact faithful.readText path _

/-- As long as nothing is told on some streams, nothing is written there. -/
theorem harmless_of_faithful (isSilent : Stream -> Prop) (contents : Stream -> List UInt8) :
    Harmless (Semantics.states σ)
      (fun system => ∀ stream, isSilent stream -> view.written stream system = contents stream)
      (fun _ => True) (fun _ => True) fun stream => ¬ isSilent stream where
  pathExists path system held stream isSilent :=
    (congrArg (view.written stream) (faithful.pathExists path system)).trans (held stream isSilent)
  isDirectory path system held stream isSilent :=
    (congrArg (view.written stream) (faithful.isDirectory path system)).trans (held stream isSilent)
  readText {path} _ system held stream isSilent :=
    (congrArg (view.written stream) (faithful.readText path system)).trans (held stream isSilent)
  makeDirectory path system held stream isSilent :=
    (faithful.makeDirectory path system stream).trans (held stream isSilent)
  create {path system} _ held :=
    ⟨fun stream isSilent => (faithful.create path system stream).trans (held stream isSilent),
      fun _ _ => trivial⟩
  write {file} bytes _ system held stream isSilent :=
    (faithful.write file bytes system stream).trans (held stream isSilent)
  say {heard} text isHeard system held stream isSilent := by
    have isOther : stream ≠ heard := fun same => isHeard (same ▸ isSilent)
    exact ((faithful.say heard text system).others_eq stream isOther).trans (held stream isSilent)
  elapsed system held stream isSilent :=
    (faithful.elapsed_written system stream).trans (held stream isSilent)

variable {options : ExtractOptions} {before : σ} {directory : Path}

theorem run_currentDirectory (before : σ) :
    (Host.currentDirectory (m := StateM σ)).run before =
      (((Host.currentDirectory (m := StateM σ)).run before).1, before) :=
  Prod.ext rfl (faithful.currentDirectory before)

theorem run_readText (path : Path) (before : σ) :
    (Host.readText (m := StateM σ) path).run before =
      (((Host.readText (m := StateM σ) path).run before).1, before) :=
  Prod.ext rfl (faithful.readText path before)

/-- To find out what an extraction works with changes nothing, and fails before anything is
done. -/
theorem perform_settingsFor (options : ExtractOptions) (directory : Path) (before : σ) :
    perform (settingsFor options directory) before =
        ((perform (settingsFor options directory) before).1, before) ∧
      ∀ failure, (perform (settingsFor options directory) before).1 = .error failure ->
        failure.stage = .preparing := by
  have keeps := (asking_of_faithful faithful before).keeps_settingsFor
    (fun _ => trivial) (fun _ => id) options directory
  obtain ⟨same, early⟩ := keeps.performed (rfl : before = before)
  exact ⟨Prod.ext rfl same, early⟩

variable [Text.Measure] [Language]

/-- An extraction that has got ready has changed nothing. -/
theorem perform_extractTemplates_of_ready
    {settings : Settings}
    {text : String}
    {setup : Setup}
    (ready : Ready options before directory settings text setup)
    (inColour : Bool) :
    perform (extractTemplates inColour options) before =
      perform (extractText inColour options directory settings.messages setup text) before := by
  rw [extractTemplates, perform_bind, perform_attempt, run_currentDirectory faithful, ready.found]
  simp only
  rw [perform_bind, (perform_settingsFor faithful options directory before).1, ready.resolved]
  simp only
  rw [perform_bind, perform_attempt, run_readText faithful, ready.read]
  simp only [ready.accepted]

/-- An extraction that does not get ready fails before anything is done and changes nothing. -/
theorem perform_extractTemplates_of_not_ready
    (notReady : ∀ directory settings text setup,
      ¬ Ready options before directory settings text setup)
    (inColour : Bool) :
    ∃ failure, perform (extractTemplates inColour options) before = (.error failure, before) ∧
      failure.stage = .preparing := by
  rw [extractTemplates, perform_bind, perform_attempt, run_currentDirectory faithful]
  cases found : ((Host.currentDirectory (m := StateM σ)).run before).1 with
  | error error => exact ⟨.directory error, rfl, rfl⟩
  | ok directory =>
      obtain ⟨settings_eq, early⟩ := perform_settingsFor faithful options directory before
      simp only
      rw [perform_bind, settings_eq]
      cases resolved : (perform (settingsFor options directory) before).1 with
      | error failure => exact ⟨failure, rfl, early failure resolved⟩
      | ok settings =>
          simp only
          rw [perform_bind, perform_attempt, run_readText faithful]
          cases read : ((Host.readText (m := StateM σ)
              (directory.join options.input.toList)).run before).1 with
          | error error => exact ⟨.readInput _ error, rfl, rfl⟩
          | ok text =>
              simp only
              cases accepted : Setup.ofText settings.naming settings.replacement with
              | error failure => exact ⟨.replacement failure, rfl, rfl⟩
              | ok setup =>
                  exact absurd ⟨found, resolved, read, accepted⟩ (notReady _ _ _ _)

end

end CommandLine

end ErrorTemplates
