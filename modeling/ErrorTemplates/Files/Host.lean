import ErrorTemplates.Files.Tree
import ErrorTemplates.Text.Bytes

/-!
# Hosts

What a command needs of the system that it runs on: a working directory, files, and two
streams for its output, all of which may fail. A world is a host that is a value: a file tree, the
working directory, what has been written to the streams, and how much more can be written.
-/

namespace ErrorTemplates
namespace Files

open Text (utf8)

/-- The streams to which a command writes. -/
inductive Stream
  /-- The standard output. -/
  | output
  /-- The standard error output. -/
  | errors
  deriving DecidableEq

/-- The operations of a system on which commands run. -/
class Host (m : Type -> Type) where
  /-- An open file. -/
  File : Type
  /-- The working directory. -/
  currentDirectory : m (Except OsError Path)
  /-- A path leads to a file or a directory. -/
  pathExists : Path -> m Bool
  /-- A path leads to a directory. -/
  isDirectory : Path -> m Bool
  /-- The text of a file. -/
  readText : Path -> m (Except OsError String)
  /-- Make a directory whose parent is there. -/
  makeDirectory : Path -> m (Except OsError Unit)
  /-- Create an empty file, or empty the one that is there, and open it. -/
  create : Path -> m (Except OsError File)
  /-- Add bytes to an open file. The result is how many of them were written. -/
  write : File -> List UInt8 -> m (Except OsError Nat)
  /-- Write a text to a stream. If that fails, the beginning of the text may be written. -/
  say : Stream -> String -> m (Except OsError Unit)
  /-- The nanoseconds since the start, unless times are not to be shown. -/
  elapsed : m (Option Nat)

/-- The bytes for which there is room, if there is a limit. -/
def fitting (room : Option Nat) (bytes : List UInt8) : List UInt8 :=
  match room with
  | none => bytes
  | some limit => bytes.take limit

/-- A stream as a value. -/
structure Channel where
  /-- What was written to the stream. -/
  written : List UInt8 := []
  /-- How many more bytes it takes, if there is a limit. -/
  room : Option Nat := none

/-- The error of a stream that nobody reads. -/
def brokenPipe : OsError := .other "Broken pipe (os error 32)"

/-- Write a text to a stream, as far as it takes it. -/
def Channel.say (text : String) (channel : Channel) : Except OsError Unit × Channel :=
  let bytes := utf8 text
  let taken := fitting channel.room bytes
  (if taken.length = bytes.length then .ok () else .error brokenPipe,
    { written := channel.written ++ taken, room := channel.room.map (· - taken.length) })

/-- A system as a value. -/
structure World where
  /-- The files. -/
  tree : Tree
  /-- The working directory. -/
  directory : Place
  /-- The standard output. -/
  output : Channel := {}
  /-- The standard error output. -/
  errors : Channel := {}
  /-- How many more bytes the files take, if there is a limit. -/
  room : Option Nat := none

namespace World

/-- The path of a place. -/
def pathOf (place : Place) : Path :=
  if place.isEmpty then ['/'] else (place.map fun name => '/' :: name).flatten

/-- Change a world, or leave it as it is. -/
def change {α : Type} (operation : World -> Except OsError (α × World)) :
    StateM World (Except OsError α) :=
  fun world =>
    match operation world with
    | .ok (result, after) => (.ok result, after)
    | .error error => (.error error, world)

/-- Make a directory. -/
def makeDirectory (path : Path) (world : World) : Except OsError (Unit × World) :=
  (fun tree => ((), { world with tree })) <$> world.tree.makeDirectory world.directory path

/-- Create a file, or empty the one that is there. -/
def create (path : Path) (world : World) : Except OsError (Place × World) :=
  (fun (place, tree) => (place, { world with tree })) <$>
    world.tree.create world.directory path

/-- The error of a file for which there is no room. -/
def noSpace : OsError := .other "No space left on device (os error 28)"

/-- Add bytes to the file at a place, as far as there is room. -/
def write (place : Place) (bytes : List UInt8) (world : World) : Except OsError (Nat × World) :=
  let written := fitting world.room bytes
  if written.isEmpty && !bytes.isEmpty then .error noSpace
  else
    (fun tree =>
        (written.length, { world with tree, room := world.room.map (· - written.length) })) <$>
      world.tree.append place written

/-- Write a text to a stream. -/
def say (stream : Stream) (text : String) (world : World) : Except OsError Unit × World :=
  match stream with
  | .output =>
      let (result, output) := world.output.say text
      (result, { world with output })
  | .errors =>
      let (result, errors) := world.errors.say text
      (result, { world with errors })

instance : Host (StateM World) where
  File := Place
  currentDirectory := fun world => (.ok (pathOf world.directory), world)
  pathExists path := fun world => (world.tree.exists? world.directory path, world)
  isDirectory path := fun world => (world.tree.isDirectory world.directory path, world)
  readText path := fun world => (world.tree.readText world.directory path, world)
  makeDirectory path := change (makeDirectory path)
  create path := change (create path)
  write place bytes := change (write place bytes)
  say stream text := say stream text
  elapsed := fun world => (none, world)

end World

section

variable {m : Type -> Type} [Monad m] [Host m]

/-- Make a directory and all its parents, unless it is there. -/
def makeDirectories : (limit : Nat) -> Path -> m (Except OsError Unit)
  | 0, _ => return .error (.other "failed to create whole tree")
  | limit + 1, path => do
      if path.isEmpty then return .ok ()
      match ← Host.makeDirectory (m := m) path with
      | .ok () => return .ok ()
      | .error .notFound =>
          match path.parent? with
          | none => return .error (.other "failed to create whole tree")
          | some parent =>
              match ← makeDirectories limit parent with
              | .error error => return .error error
              | .ok () => again path
      | .error error =>
          if ← Host.isDirectory (m := m) path then return .ok () else return .error error
where
  /-- Make a directory whose parents are there by now. -/
  again (path : Path) : m (Except OsError Unit) := do
    match ← Host.makeDirectory (m := m) path with
    | .ok () => return .ok ()
    | .error error =>
        if ← Host.isDirectory (m := m) path then return .ok () else return .error error

end

end Files
end ErrorTemplates
