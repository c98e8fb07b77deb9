import ErrorTemplates.CommandLine.Extract
import ErrorTemplates.Proofs.Extraction.Taking

/-!
# What commands keep

What the operations of a host preserve is kept by everything that is made up of them: by making
directories, by searching for a configuration, by telling something, by writing files and by whole
extractions. The operations need not be harmless everywhere. It is enough for those on allowed
paths, on files that were opened by them, and on streams to which something is told.
-/

namespace ErrorTemplates
namespace CommandLine

open Files
open Extraction (Naming Setup Sink Table)
open Diagnostic (Issue Row Styled)
open Program (Language Source)

/-- How far a command has come when it fails. -/
inductive Stage
  /-- It gets ready. -/
  | preparing
  /-- It tells something. -/
  | telling
  /-- It writes results. -/
  | writing
  deriving DecidableEq

/-- When a command fails in this way. -/
def Failure.stage : Failure -> Stage
  | .directory _ | .config _ | .invalid _ | .readReplacement _ _ | .replacement _
  | .readInput _ _ => .preparing
  | .brokenOff _ => .telling
  | .makeDirectory _ _ | .writeOutput _ _ | .printProgram _ | .createMessages _ _
  | .writeMessages _ | .writeConfig _ => .writing

section
variable {m : Type -> Type} [Monad m] {σ : Type} (semantics : Semantics m σ)

/-- A command keeps what holds, whether it ends or fails, and all its failures are of a kind. -/
def Keeps
    (kind : Failure -> Prop)
    (holds : σ -> Prop)
    (action : ExceptT Failure m α) : Prop :=
  (semantics.failing fun failure after => kind failure ∧ holds after).Preserves holds action

variable {semantics} {kind : Failure -> Prop} {holds : σ -> Prop} {α β : Type}

theorem keeps_pure (result : α) :
    Keeps semantics kind holds (pure result : ExceptT Failure m α) :=
  Semantics.preserves_pure result

theorem keeps_throw {failure : Failure} (isKind : kind failure) :
    Keeps semantics kind holds (throw failure : ExceptT Failure m α) :=
  Semantics.preserves_throw fun _ held => ⟨isKind, held⟩

theorem keeps_bind
    {action : ExceptT Failure m α}
    {next : α -> ExceptT Failure m β}
    (keeps : Keeps semantics kind holds action)
    (nextKeeps : ∀ result, Keeps semantics kind holds (next result)) :
    Keeps semantics kind holds (action >>= next) :=
  Semantics.preserves_bind keeps nextKeeps

/-- Nothing comes after a failure. -/
theorem keeps_throw_bind
    {failure : Failure}
    (isKind : kind failure)
    (next : α -> ExceptT Failure m β) :
    Keeps semantics kind holds ((throw failure : ExceptT Failure m α) >>= next) := by
  intro before held
  refine (semantics.failing _).ends_bind ?_
  exact semantics.ends_pure ⟨isKind, held⟩

variable [LawfulMonad m]

theorem keeps_liftM {action : m α} (preserves : semantics.Preserves holds action) :
    Keeps semantics kind holds (liftM action : ExceptT Failure m α) :=
  Semantics.preserves_liftM preserves

theorem keeps_map
    {change : α -> β}
    {action : ExceptT Failure m α}
    (keeps : Keeps semantics kind holds action) :
    Keeps semantics kind holds (change <$> action) := by
  rw [map_eq_pure_bind]
  exact keeps_bind keeps fun result => keeps_pure (change result)

theorem keeps_attempt
    {failure : OsError -> Failure}
    {action : m (Except OsError α)}
    (preserves : semantics.Preserves holds action)
    (isKind : ∀ error, kind (failure error)) :
    Keeps semantics kind holds (attempt failure action) := by
  refine keeps_bind (keeps_liftM preserves) fun result => ?_
  cases result with
  | ok result => exact keeps_pure result
  | error error => exact keeps_throw (isKind error)

end

/-! ## Operations -/

section
variable {m : Type -> Type} [Monad m] [Host m] {σ : Type}

/-- To ask for something preserves what holds, as far as texts are read from allowed paths. -/
structure Asking
    (semantics : Semantics m σ)
    (holds : σ -> Prop)
    (isAllowed : Path -> Prop) : Prop where
  pathExists : ∀ path, semantics.Preserves holds (Host.pathExists (m := m) path)
  isDirectory : ∀ path, semantics.Preserves holds (Host.isDirectory (m := m) path)
  readText : ∀ {path}, isAllowed path -> semantics.Preserves holds (Host.readText (m := m) path)

/-- The operations of a host preserve what holds, as far as they have to do with allowed paths, with
the files that are opened there, and with the streams to which something is told. -/
structure Harmless
    (semantics : Semantics m σ)
    (holds : σ -> Prop)
    (isAllowed : Path -> Prop)
    (isOpen : Host.File m -> Prop)
    (isHeard : Stream -> Prop) : Prop extends Asking semantics holds isAllowed where
  makeDirectory : ∀ path, semantics.Preserves holds (Host.makeDirectory (m := m) path)
  create : ∀ {path before}, isAllowed path -> holds before ->
    semantics.Ends (Host.create (m := m) path) before fun result after =>
      holds after ∧ ∀ file, result = .ok file -> isOpen file
  write : ∀ {file} bytes, isOpen file -> semantics.Preserves holds (Host.write file bytes)
  say : ∀ {stream} text, isHeard stream -> semantics.Preserves holds (Host.say (m := m) stream text)
  elapsed : semantics.Preserves holds (Host.elapsed (m := m))

namespace Asking

variable {semantics : Semantics m σ} {holds : σ -> Prop} {isAllowed : Path -> Prop}
variable (asking : Asking semantics holds isAllowed)
include asking

theorem preserves_unless_isDirectory (path : Path) (error : OsError) :
    semantics.Preserves (α := Except OsError Unit) holds (do
      if ← Host.isDirectory (m := m) path then return .ok () else return .error error) := by
  refine Semantics.preserves_bind (asking.isDirectory path) fun isThere => ?_
  cases isThere <;> exact Semantics.preserves_pure _

theorem preserves_findFrom (limit : Nat) (directory : Path) :
    semantics.Preserves holds (Config.findFrom (m := m) limit directory) := by
  induction limit generalizing directory with
  | zero => exact Semantics.preserves_pure none
  | succ limit inductionHypothesis =>
      refine Semantics.preserves_bind (asking.pathExists _) fun isThere => ?_
      split
      · exact Semantics.preserves_pure _
      · refine Semantics.preserves_bind (asking.pathExists _) fun isTop => ?_
        split
        · exact Semantics.preserves_pure _
        · split
          · exact Semantics.preserves_pure _
          · exact inductionHypothesis _

theorem preserves_loadFile {path : Path} (isAllowed : isAllowed path) (directory : Path) :
    semantics.Preserves holds (Config.loadFile (m := m) directory path) := by
  refine Semantics.preserves_bind (asking.readText isAllowed) fun text? => ?_
  cases text? with
  | error error => exact Semantics.preserves_pure _
  | ok text =>
      simp only
      split
      · exact Semantics.preserves_pure _
      · split <;> exact Semantics.preserves_pure _

theorem preserves_load (allAllowed : ∀ path, isAllowed path) (directory : Path) :
    semantics.Preserves holds (Config.load (m := m) directory) := by
  refine Semantics.preserves_bind (asking.preserves_findFrom _ directory) fun path? => ?_
  cases path? with
  | some path => exact asking.preserves_loadFile (allAllowed path) directory
  | none => exact Semantics.preserves_pure _

variable [LawfulMonad m] {kind : Failure -> Prop}

/-- To find out what an extraction works with is to ask. -/
theorem keeps_settingsFor
    (allAllowed : ∀ path, isAllowed path)
    (early : ∀ failure, failure.stage = .preparing -> kind failure)
    (options : ExtractOptions)
    (directory : Path) :
    Keeps semantics kind holds (settingsFor (m := m) options directory) := by
  refine keeps_bind (keeps_liftM (asking.preserves_load allAllowed directory)) fun loaded? => ?_
  cases loaded? with
  | error error => exact keeps_throw (early _ rfl)
  | ok loaded =>
      simp only
      split
      · next reason _ => exact keeps_throw_bind (early (.invalid reason) rfl) _
      · split
        · exact keeps_bind (keeps_pure none) fun _ => keeps_pure _
        · next path _ =>
            have reads := asking.readText (allAllowed path)
            exact keeps_bind (keeps_map (keeps_attempt reads fun _ => early _ rfl)) fun _ =>
              keeps_pure _

end Asking

namespace Harmless

variable {semantics : Semantics m σ} {holds : σ -> Prop} {isAllowed : Path -> Prop}
variable {isOpen : Host.File m -> Prop} {isHeard : Stream -> Prop}
variable (harmless : Harmless semantics holds isAllowed isOpen isHeard)
include harmless

/-! ### Directories -/

theorem preserves_again (path : Path) :
    semantics.Preserves holds (makeDirectories.again (m := m) path) := by
  refine Semantics.preserves_bind (harmless.makeDirectory path) fun made => ?_
  cases made with
  | ok => exact Semantics.preserves_pure _
  | error error => exact harmless.preserves_unless_isDirectory path error

theorem preserves_makeDirectories (limit : Nat) (path : Path) :
    semantics.Preserves holds (makeDirectories (m := m) limit path) := by
  induction limit generalizing path with
  | zero => exact Semantics.preserves_pure _
  | succ limit inductionHypothesis =>
      rw [makeDirectories]
      split
      · exact Semantics.preserves_pure _
      · refine Semantics.preserves_bind (harmless.makeDirectory path) fun made => ?_
        split
        · exact Semantics.preserves_pure _
        · split
          · exact Semantics.preserves_pure _
          · refine Semantics.preserves_bind (inductionHypothesis _) fun parentMade => ?_
            split
            · exact Semantics.preserves_pure _
            · exact harmless.preserves_again path
        · exact harmless.preserves_unless_isDirectory path _

variable [LawfulMonad m] {kind : Failure -> Prop}

/-! ### Telling -/

theorem keeps_offer {stream : Stream} (isHeard : isHeard stream) (text : String) :
    Keeps semantics kind holds (offer (m := m) stream text) :=
  keeps_bind (keeps_liftM (harmless.say text isHeard)) fun _ => keeps_pure ()

theorem keeps_tell
    {stream : Stream}
    (isHeard : isHeard stream)
    (inColour : Bool)
    (text : Styled) : Keeps semantics kind holds (tell (m := m) inColour stream text) :=
  harmless.keeps_offer isHeard _

theorem keeps_tellRows
    {stream : Stream}
    (isHeard : isHeard stream)
    (breaks : ∀ failure, failure.stage = .telling -> kind failure)
    (inColour : Bool)
    (rows : List Row) : Keeps semantics kind holds (tellRows (m := m) inColour stream rows) := by
  induction rows with
  | nil => exact keeps_pure ()
  | cons row rest inductionHypothesis =>
      rw [tellRows]
      split
      · exact keeps_throw (breaks _ rfl)
      · exact keeps_bind (harmless.keeps_offer isHeard _) fun _ => inductionHypothesis

theorem keeps_tellTime (isHeard : isHeard .errors) (inColour : Bool) (phase : String) :
    Keeps semantics kind holds (tellTime (m := m) inColour phase) := by
  refine keeps_bind (keeps_liftM harmless.elapsed) fun nanoseconds? => ?_
  cases nanoseconds? with
  | none => exact keeps_pure ()
  | some nanoseconds => exact harmless.keeps_tell isHeard inColour _

theorem keeps_tellResults
    {options : ExtractOptions}
    (errorsHeard : isHeard .errors)
    (isHeard : isHeard options.stream)
    (inColour : Bool)
    (table : Table)
    (statistics : Extraction.Statistics) :
    Keeps semantics kind holds (tellResults (m := m) inColour options table statistics) := by
  have tellsAll (lines : List Styled) :
      Keeps semantics kind holds (lines.forM (tell (m := m) inColour .errors)) := by
    induction lines with
    | nil => exact keeps_pure _
    | cons line rest inductionHypothesis =>
        exact keeps_bind (harmless.keeps_tell errorsHeard inColour line) fun _ =>
          inductionHypothesis
  have tellsSuccess : Keeps semantics kind holds (tell (m := m) inColour options.stream
      (Diagnostic.successLine options.input table.size table.names.length)) :=
    harmless.keeps_tell isHeard inColour _
  rw [tellResults]
  split
  · exact keeps_bind (tellsAll _) fun _ =>
      keeps_bind (harmless.keeps_tellTime errorsHeard inColour _) fun _ => tellsSuccess
  · exact tellsSuccess

/-! ### Writing -/

section
variable (late : ∀ failure, failure.stage = .writing -> kind failure)
include late

theorem keeps_makeParent (path : Path) :
    Keeps semantics kind holds (makeParent (m := m) path) := by
  rw [makeParent]
  split
  · exact keeps_pure _
  · split
    · exact keeps_pure _
    · exact keeps_attempt (harmless.preserves_makeDirectories _ _) fun _ => late _ rfl

omit [LawfulMonad m] late in
theorem counts_fileSink {file : Host.File m} (opened : isOpen file) :
    Sink.Counts semantics (fileSink (m := m) file) (fun _ => holds) fun _ _ => True where
  take bytes held := semantics.ends_bind <|
    semantics.mono (harmless.write bytes opened _ held) fun _ _ heldThen =>
      semantics.ends_pure heldThen
  flush held := semantics.ends_pure ⟨held, fun _ => trivial⟩

/-- What is done with a file that was created keeps what holds if it does for open files. -/
theorem keeps_create_bind
    {failing : OsError -> Failure}
    {path : Path}
    {next : Host.File m -> ExceptT Failure m α}
    (isAllowed : isAllowed path)
    (failsLate : ∀ error, (failing error).stage = .writing)
    (nextKeeps : ∀ file, isOpen file -> Keeps semantics kind holds (next file)) :
    Keeps semantics kind holds (attempt failing (Host.create (m := m) path) >>= next) := by
  intro before held
  refine (semantics.failing _).ends_bind <| (semantics.failing _).ends_bind <|
    Semantics.ends_liftM <| semantics.mono (harmless.create isAllowed held) ?_
  rintro result after ⟨heldThen, opened⟩
  cases result with
  | error error => exact semantics.ends_pure ⟨late _ (failsLate error), heldThen⟩
  | ok file => exact semantics.ends_pure (nextKeeps file (opened file rfl) after heldThen)

theorem keeps_writeFile
    {failing : OsError -> Failure}
    {path : Path}
    (isAllowed : isAllowed path)
    (failsLate : ∀ error, (failing error).stage = .writing)
    (text : String) : Keeps semantics kind holds (writeFile (m := m) failing path text) := by
  refine harmless.keeps_create_bind late isAllowed failsLate fun file opened => ?_
  have takes (limit : Nat) (bytes : List UInt8) :
      semantics.Preserves holds ((fileSink (m := m) file).takeAll limit bytes) :=
    fun before held => semantics.mono
      (Sink.ends_takeAll (harmless.counts_fileSink opened).accounts [] held _ _)
      fun _ _ ⟨_, _, heldThen, _⟩ => heldThen
  refine keeps_bind (keeps_liftM (takes _ _)) fun result => ?_
  cases result with
  | error reason => exact keeps_throw (late _ (failsLate _))
  | ok => exact keeps_pure _

theorem keeps_writeMessages {path : Path} (isAllowed : isAllowed path) (table : Table) :
    Keeps semantics kind holds (writeMessages (m := m) path table) := by
  refine keeps_bind (harmless.keeps_makeParent late path) fun _ => ?_
  refine harmless.keeps_create_bind late isAllowed (fun _ => rfl) fun file opened => ?_
  have counts := harmless.counts_fileSink opened
  have writes :
      semantics.Preserves holds ((table.write (fileSink (m := m) file).buffered).run []) :=
    fun before held => semantics.mono
      (Sink.ends_write counts.buffered [] (Sink.waits_append [] [] held) table)
      fun _ _ ⟨⟨_, _, ⟨_, _, heldThen⟩, _⟩, _⟩ => heldThen
  refine keeps_bind (keeps_liftM writes) fun (written, waiting) => ?_
  have drains : semantics.Preserves holds ((fileSink (m := m) file).drainAll.run waiting) :=
    fun before held => semantics.mono (counts.ends_drainAll (Sink.waits_append [] waiting held))
      fun _ _ ⟨⟨_, _, heldThen⟩, _⟩ => heldThen
  refine keeps_bind (keeps_liftM drains) fun _ => ?_
  cases written with
  | error failure => exact keeps_throw (late _ rfl)
  | ok => exact keeps_pure _

theorem keeps_writeProgram
    {options : ExtractOptions}
    {directory : Path}
    (toStream : options.output = none -> isHeard .output)
    (toFile : ∀ output, options.output = some output ->
      isAllowed (directory.join output.toList))
    (text : String) :
    Keeps semantics kind holds (writeProgram (m := m) options directory text) := by
  rw [writeProgram]
  split
  · next hasNone =>
      exact keeps_attempt (harmless.say text (toStream hasNone)) fun _ => late _ rfl
  · next output hasOutput =>
      exact keeps_bind (harmless.keeps_makeParent late _) fun _ =>
        harmless.keeps_writeFile late (toFile output hasOutput) (fun _ => rfl) text

end

/-! ### Extracting -/

section
variable {options : ExtractOptions} {directory messages : Path}
variable (late : ∀ failure, failure.stage = .writing -> kind failure)
variable (errorsHeard : isHeard .errors) (streamHeard : isHeard options.stream)
variable (messagesAllowed : isAllowed messages)
include late errorsHeard streamHeard messagesAllowed

/-- What is done after the program was written keeps what holds. -/
theorem keeps_finishResults
    (inColour : Bool)
    (table : Table)
    (statistics : Extraction.Statistics) :
    Keeps semantics kind holds
      (finishResults (m := m) inColour options messages table statistics) :=
  keeps_bind (harmless.keeps_writeMessages late messagesAllowed table) fun _ =>
    keeps_bind (harmless.keeps_tellResults errorsHeard streamHeard inColour table statistics)
      fun _ => keeps_pure _

theorem keeps_writeResults
    (toStream : options.output = none -> isHeard .output)
    (toFile : ∀ output, options.output = some output ->
      isAllowed (directory.join output.toList))
    (inColour : Bool)
    (printed : String)
    (table : Table)
    (statistics : Extraction.Statistics) :
    Keeps semantics kind holds
      (writeResults (m := m) inColour options directory messages printed table statistics) :=
  keeps_bind (harmless.keeps_writeProgram late toStream toFile printed) fun _ =>
    harmless.keeps_finishResults late errorsHeard streamHeard messagesAllowed inColour table
      statistics

end

section
variable [Text.Measure] {options : ExtractOptions} {directory messages : Path}
variable (heard : ∀ stream, isHeard stream)
variable (prepared : ∀ failure, failure.stage ≠ .preparing -> kind failure)
variable (outputAllowed : ∀ output, options.output = some output ->
  isAllowed (directory.join output.toList))
variable (messagesAllowed : isAllowed messages)
include heard prepared

theorem keeps_tellIssues (inColour : Bool) (issues : List Issue) :
    Keeps semantics kind holds (tellIssues (m := m) inColour options issues) :=
  harmless.keeps_tellRows (heard _) (fun failure tells => prepared failure (by simp [tells]))
    inColour _

variable [Language]
include outputAllowed messagesAllowed

theorem keeps_extractParsed
    (inColour : Bool)
    (setup : Setup)
    (source : Source)
    (parsed : Program.Parsed) :
    Keeps semantics kind holds
      (extractParsed (m := m) inColour options directory messages setup source parsed) := by
  have late (failure : Failure) (writes : failure.stage = .writing) : kind failure :=
    prepared failure (by simp [writes])
  have timed {next : ExceptT Failure m Status} (keeps : Keeps semantics kind holds next) :
      Keeps semantics kind holds
        (if options.isVerbose = true then tellTime inColour "parsed" >>= fun _ => next
          else next) := by
    split
    · exact keeps_bind (harmless.keeps_tellTime (heard _) inColour _) fun _ => keeps
    · exact keeps
  have tells (issues : List Issue) :
      Keeps semantics kind holds (tellIssues (m := m) inColour options issues) :=
    harmless.keeps_tellIssues heard prepared inColour issues
  rcases ran : setup.run source parsed.program with ⟨_ | _, program⟩
  · simp only [extractParsed, ran]
    exact timed <| keeps_bind (tells _) fun _ =>
      harmless.keeps_writeResults late (heard _) (heard _) messagesAllowed (fun _ => heard _)
        outputAllowed inColour _ _ _
  · simp only [extractParsed, ran]
    exact timed (keeps_bind (tells _) fun _ => keeps_pure _)

/-- What an extraction does with a text that was read keeps what holds. -/
theorem keeps_extractText (inColour : Bool) (setup : Setup) (text : String) :
    Keeps semantics kind holds
      (extractText (m := m) inColour options directory messages setup text) := by
  simp only [extractText]
  split
  · exact keeps_bind (harmless.keeps_tellIssues heard prepared inColour _) fun _ => keeps_pure _
  · exact harmless.keeps_extractParsed heard prepared outputAllowed messagesAllowed inColour
      setup _ _

end

end Harmless

end

end CommandLine
end ErrorTemplates
