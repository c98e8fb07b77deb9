import ErrorTemplates.Files.Host
import Mathlib.Data.List.Forall2

/-!
# Faithful hosts

A view says what can be seen of a state of a system: the files and what was written to the two
streams. A host is faithful to a view when each of its operations does what it is there for and
nothing else that could be seen. Any of its operations may fail, and a stream may take only the
beginning of a text. Worlds are faithful hosts.
-/

namespace ErrorTemplates
namespace Files

open Text (utf8)

/-- What can be seen of the states of a system. -/
structure View (σ φ : Type) where
  /-- The files and the directories. -/
  files : σ -> φ
  /-- What was written to a stream. -/
  written : Stream -> σ -> List UInt8

section
variable {σ φ : Type}

/-- A beginning of a text is added to a stream, all of it unless that fails, and nothing else that
can be seen is changed. -/
structure Says
    (view : View σ φ)
    (stream : Stream)
    (text : String)
    (before : σ)
    (done : Except OsError Unit × σ) : Prop where
  files_eq : view.files done.2 = view.files before
  others_eq : ∀ other ≠ stream, view.written other done.2 = view.written other before
  added : ∃ part, part <+: utf8 text ∧
    view.written stream done.2 = view.written stream before ++ part ∧
      (done.1 = .ok () -> part = utf8 text)

variable [Host (StateM σ)]

/-- The operations of a host do what they are there for. -/
structure Faithful (view : View σ φ) : Prop where
  /-- To ask for the working directory changes nothing. -/
  currentDirectory : ∀ system : σ, ((Host.currentDirectory (m := StateM σ)).run system).2 = system
  /-- To ask whether a path leads somewhere changes nothing. -/
  pathExists : ∀ path (system : σ), ((Host.pathExists (m := StateM σ) path).run system).2 = system
  /-- To read a file changes nothing. -/
  readText : ∀ path (system : σ), ((Host.readText (m := StateM σ) path).run system).2 = system
  /-- To ask whether a path leads to a directory changes nothing. -/
  isDirectory : ∀ path (system : σ), ((Host.isDirectory (m := StateM σ) path).run system).2 = system
  /-- To make a directory writes to no stream. -/
  makeDirectory : ∀ path (system : σ) stream,
    view.written stream ((Host.makeDirectory (m := StateM σ) path).run system).2 =
      view.written stream system
  /-- To create a file writes to no stream. -/
  create : ∀ path (system : σ) stream,
    view.written stream ((Host.create (m := StateM σ) path).run system).2 =
      view.written stream system
  /-- To write to a file writes to no stream. -/
  write : ∀ file bytes (system : σ) stream,
    view.written stream ((Host.write (m := StateM σ) file bytes).run system).2 =
      view.written stream system
  /-- What is written to a stream is added there. -/
  say : ∀ stream text (system : σ),
    Says view stream text system ((Host.say (m := StateM σ) stream text).run system)
  /-- To ask for the time changes no files. -/
  elapsed : ∀ system : σ,
    view.files ((Host.elapsed (m := StateM σ)).run system).2 = view.files system
  /-- To ask for the time writes to no stream. -/
  elapsed_written : ∀ (system : σ) stream,
    view.written stream ((Host.elapsed (m := StateM σ)).run system).2 = view.written stream system

/-- In these states a stream takes all that is written to it. They are not left when something is
written to a stream or when the time is asked for. -/
structure StaysOpen (stream : Stream) (isOpen : σ -> Prop) : Prop where
  takes : ∀ text system, isOpen system ->
    ((Host.say (m := StateM σ) stream text).run system).1 = .ok ()
  say : ∀ other text system, isOpen system ->
    isOpen ((Host.say (m := StateM σ) other text).run system).2
  elapsed : ∀ system, isOpen system -> isOpen ((Host.elapsed (m := StateM σ)).run system).2

/-- From a state on a stream takes all that is written to it. -/
def TakesAll (stream : Stream) (system : σ) : Prop :=
  ∃ isOpen : σ -> Prop, StaysOpen stream isOpen ∧ isOpen system

namespace TakesAll

variable {stream : Stream} {system : σ}

theorem say_eq_ok (takesAll : TakesAll stream system) (text : String) :
    ((Host.say (m := StateM σ) stream text).run system).1 = .ok () := by
  obtain ⟨_, staysOpen, isOpen⟩ := takesAll
  exact staysOpen.takes text system isOpen

theorem say (takesAll : TakesAll stream system) (other : Stream) (text : String) :
    TakesAll stream ((Host.say (m := StateM σ) other text).run system).2 := by
  obtain ⟨_, staysOpen, isOpen⟩ := takesAll
  exact ⟨_, staysOpen, staysOpen.say other text system isOpen⟩

theorem elapsed (takesAll : TakesAll stream system) :
    TakesAll stream ((Host.elapsed (m := StateM σ)).run system).2 := by
  obtain ⟨_, staysOpen, isOpen⟩ := takesAll
  exact ⟨_, staysOpen, staysOpen.elapsed system isOpen⟩

end TakesAll

/-- Texts are written to a stream one after the other: a beginning of each arrives there, and all of
each if the stream takes all that is written. Nothing else that can be seen is changed. -/
structure Tells
    (view : View σ φ)
    (stream : Stream)
    (texts : List String)
    (before after : σ) : Prop where
  files_eq : view.files after = view.files before
  others_eq : ∀ other ≠ stream, view.written other after = view.written other before
  takesAll : ∀ {other}, TakesAll other before -> TakesAll other after
  added : ∃ parts,
    List.Forall₂ (fun part text =>
      part <+: utf8 text ∧ (TakesAll stream before -> part = utf8 text)) parts texts ∧
    view.written stream after = view.written stream before ++ parts.flatten

namespace Tells

variable {view : View σ φ} {stream : Stream} {before middle after : σ}

theorem refl (view : View σ φ) (stream : Stream) (system : σ) :
    Tells view stream [] system system where
  files_eq := rfl
  others_eq _ _ := rfl
  takesAll := id
  added := ⟨[], .nil, (List.append_nil _).symm⟩

theorem trans
    {texts others : List String}
    (first : Tells view stream texts before middle)
    (second : Tells view stream others middle after) :
    Tells view stream (texts ++ others) before after where
  files_eq := second.files_eq.trans first.files_eq
  others_eq other isOther := (second.others_eq other isOther).trans (first.others_eq other isOther)
  takesAll takesAll := second.takesAll (first.takesAll takesAll)
  added := by
    obtain ⟨parts, arePrefixes, written_eq⟩ := first.added
    obtain ⟨otherParts, otherPrefixes, otherWritten_eq⟩ := second.added
    have alsoPrefixes := otherPrefixes.imp fun _ _ both =>
      And.imp_right (fun all takesAll => all (first.takesAll takesAll)) both
    refine ⟨parts ++ otherParts, List.rel_append arePrefixes alsoPrefixes, ?_⟩
    rw [otherWritten_eq, written_eq, List.flatten_append, List.append_assoc]

/-- A stream that takes all that is written has all of the texts. -/
theorem written_eq_of_takesAll
    {texts : List String}
    (tells : Tells view stream texts before after)
    (takesAll : TakesAll stream before) :
    view.written stream after = view.written stream before ++ utf8 (String.join texts) := by
  obtain ⟨parts, arePrefixes, written_eq⟩ := tells.added
  rw [written_eq, Text.utf8_join, List.flatMap_def]
  congr 2
  refine List.forall₂_eq_eq_eq ▸ ?_
  rw [List.forall₂_map_right_iff]
  exact arePrefixes.imp fun _ _ both => both.2 takesAll

end Tells

end

/-- The channel for a stream. -/
def World.channel (world : World) : Stream -> Channel
  | .output => world.output
  | .errors => world.errors

/-- What can be seen of a world. The working directory belongs to the files. -/
def World.view : View World (Tree × Place) where
  files world := (world.tree, world.directory)
  written stream world := (world.channel stream).written

namespace World

/-! ### Operations on files -/

theorem run_change
    {α : Type}
    (operation : World -> Except OsError (α × World))
    (world : World) :
    (∃ result after, operation world = .ok (result, after) ∧
        (change operation).run world = (.ok result, after)) ∨
      ∃ error, operation world = .error error ∧
        (change operation).run world = (.error error, world) := by
  change (∃ _ _, _ ∧ change operation world = _) ∨ ∃ _, _ ∧ change operation world = _
  unfold change
  cases operation world with
  | ok ended => exact .inl ⟨ended.1, ended.2, rfl, rfl⟩
  | error error => exact .inr ⟨error, rfl, rfl⟩

section
variable {world after : World} {path : Path} {place : Place} {bytes : List UInt8} {count : Nat}

theorem makeDirectory_eq_ok {done : Unit} (made : makeDirectory path world = .ok (done, after)) :
    ∃ tree, world.tree.makeDirectory world.directory path = .ok tree ∧
      after = { world with tree } := by
  rw [makeDirectory] at made
  cases inTree : world.tree.makeDirectory world.directory path with
  | error => rw [inTree] at made; cases made
  | ok tree => rw [inTree] at made; cases made; exact ⟨tree, rfl, rfl⟩

theorem create_eq_ok (created : create path world = .ok (place, after)) :
    ∃ tree, world.tree.create world.directory path = .ok (place, tree) ∧
      after = { world with tree } := by
  rw [create] at created
  cases inTree : world.tree.create world.directory path with
  | error => rw [inTree] at created; cases created
  | ok both => rw [inTree] at created; cases created; exact ⟨both.2, rfl, rfl⟩

theorem write_eq_ok (written : write place bytes world = .ok (count, after)) :
    ∃ tree, world.tree.append place (fitting world.room bytes) = .ok tree ∧
      count = (fitting world.room bytes).length ∧
        after = { world with tree, room := world.room.map (· - count) } := by
  rw [write] at written
  split at written
  · cases written
  · cases inTree : world.tree.append place (fitting world.room bytes) with
    | error => rw [inTree] at written; cases written
    | ok tree => rw [inTree] at written; cases written; exact ⟨tree, rfl, rfl, rfl⟩

end

/-- A change of the files writes to no stream. -/
theorem written_change
    {α : Type}
    {operation : World -> Except OsError (α × World)}
    (silent : ∀ {world result after}, operation world = .ok (result, after) ->
      after.output = world.output ∧ after.errors = world.errors)
    (world : World)
    (stream : Stream) :
    view.written stream ((change operation).run world).2 = view.written stream world := by
  rcases run_change operation world with ⟨_, after, done, ran⟩ | ⟨_, _, ran⟩ <;> rw [ran]
  obtain ⟨output_eq, errors_eq⟩ := silent done
  cases stream with
  | output => exact congrArg Channel.written output_eq
  | errors => exact congrArg Channel.written errors_eq

/-! ### Streams -/

theorem fitting_begins (room : Option Nat) (bytes : List UInt8) : fitting room bytes <+: bytes := by
  cases room with
  | none => exact List.prefix_rfl
  | some limit => exact List.take_prefix limit bytes

theorem says_say (stream : Stream) (text : String) (world : World) :
    Says view stream text world (say stream text world) := by
  have added (channel : Channel) : ∃ part, part <+: utf8 text ∧
      (channel.say text).2.written = channel.written ++ part ∧
        ((channel.say text).1 = .ok () -> part = utf8 text) := by
    refine ⟨_, fitting_begins channel.room _, rfl, fun isOk => ?_⟩
    by_cases whole : (fitting channel.room (utf8 text)).length = (utf8 text).length
    · exact (fitting_begins _ _).eq_of_length whole
    · simp [Channel.say, whole] at isOk
  cases stream with
  | output => exact ⟨rfl, fun other _ => by cases other <;> trivial, added world.output⟩
  | errors => exact ⟨rfl, fun other _ => by cases other <;> trivial, added world.errors⟩

/-- A channel without a limit takes everything. -/
theorem takesAll {stream : Stream} {world : World} (noLimit : (world.channel stream).room = none) :
    TakesAll stream world := by
  have takes {channel : Channel} (noLimit : channel.room = none) (text : String) :
      (channel.say text).1 = .ok () ∧ (channel.say text).2.room = none := by
    simp [Channel.say, fitting, noLimit]
  refine ⟨fun world => (world.channel stream).room = none, ?_, noLimit⟩
  constructor
  · intro text world noLimit
    cases stream with
    | output => exact (takes noLimit text).1
    | errors => exact (takes noLimit text).1
  · intro other text world noLimit
    cases stream <;> cases other <;> first | exact (takes noLimit text).2 | exact noLimit
  · exact fun _ noLimit => noLimit

/-- Worlds are faithful hosts. -/
theorem faithful : Faithful view where
  currentDirectory _ := rfl
  pathExists _ _ := rfl
  readText _ _ := rfl
  isDirectory _ _ := rfl
  makeDirectory _ := written_change fun made => by
    obtain ⟨_, _, rfl⟩ := makeDirectory_eq_ok made
    exact ⟨rfl, rfl⟩
  create _ := written_change fun created => by
    obtain ⟨_, _, rfl⟩ := create_eq_ok created
    exact ⟨rfl, rfl⟩
  write _ _ := written_change fun written => by
    obtain ⟨_, _, _, rfl⟩ := write_eq_ok written
    exact ⟨rfl, rfl⟩
  say := says_say
  elapsed _ := rfl
  elapsed_written _ _ := rfl

end World

end Files
end ErrorTemplates
