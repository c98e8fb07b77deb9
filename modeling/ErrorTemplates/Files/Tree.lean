import ErrorTemplates.Files.OsError
import ErrorTemplates.Files.Path
import ErrorTemplates.Text.Bytes

/-!
# File trees

A file tree has files and directories at absolute places. A path leads to a place part by
part: every part but the last has to be a directory, two points lead to the parent, and a
slash at the end asks for a directory.
-/

namespace ErrorTemplates
namespace Files

/-- An absolute place: the names from the root on. -/
abbrev Place := List (List Char)

/-- What is at a place. -/
inductive Entry
  | directory
  | file (content : ByteArray)

/-- The files and directories below the root. -/
structure Tree where
  /-- What is at which place, every place once. -/
  entries : List (Place × Entry)

namespace Tree

/-- What is at a place in a list of entries. -/
def find? (place : Place) : List (Place × Entry) -> Option Entry
  | [] => none
  | (found, entry) :: rest => if found = place then some entry else find? place rest

/-- What is at a place. The root is a directory. -/
def entry? (tree : Tree) (place : Place) : Option Entry :=
  if place.isEmpty then some .directory else find? place tree.entries

/-- Put an entry at a place of a list. -/
def put (place : Place) (entry : Entry) : List (Place × Entry) -> List (Place × Entry)
  | [] => [(place, entry)]
  | (found, old) :: rest =>
      if found = place then (found, entry) :: rest else (found, old) :: put place entry rest

/-- Put an entry at a place. -/
def set (tree : Tree) (place : Place) (entry : Entry) : Tree :=
  { entries := put place entry tree.entries }

/-- Why a place cannot be passed. -/
def obstacle? (tree : Tree) (place : Place) : Option OsError :=
  match tree.entry? place with
  | some .directory => none
  | some (.file _) => some .notDirectory
  | none => some .notFound

/-- Where a path leads. -/
structure Target where
  /-- The place. -/
  place : Place
  /-- The path ends in a name and not in a slash or in points. -/
  endsInName : Bool

/-- Follow the parts of a path from a place. -/
def follow (tree : Tree) : Target -> List (List Char) -> Except OsError Target
  | target, [] => .ok target
  | target, part :: rest =>
      match tree.obstacle? target.place with
      | some error => .error error
      | none =>
          if Path.isVoid part then
            tree.follow { place := target.place, endsInName := false } rest
          else if part = ['.', '.'] then
            tree.follow { place := target.place.dropLast, endsInName := false } rest
          else tree.follow { place := target.place ++ [part], endsInName := true } rest

/-- The parts of a path without the empty ones that slashes at its end leave. -/
def namedParts (path : Path) : List (List Char) :=
  (path.parts.reverse.dropWhile List.isEmpty).reverse

/-- Where a path leads from a working directory. -/
def resolve (tree : Tree) (directory : Place) (path : Path) : Except OsError Target :=
  if path.isEmpty then .error .notFound
  else
    let start : Target :=
      { place := if path.isAbsolute then [] else directory, endsInName := false }
    (fun target =>
        { target with endsInName := target.endsInName && path.getLast? != some '/' }) <$>
      tree.follow start (namedParts path)

/-- What a path leads to. A file is found only under its name. -/
def lookup (tree : Tree) (directory : Place) (path : Path) : Except OsError Entry :=
  match tree.resolve directory path with
  | .error error => .error error
  | .ok target =>
      match tree.entry? target.place with
      | some .directory => .ok .directory
      | some (.file content) =>
          if target.endsInName then .ok (.file content) else .error .notDirectory
      | none => .error .notFound

/-- A path leads to a file or a directory. -/
def exists? (tree : Tree) (directory : Place) (path : Path) : Bool :=
  match tree.lookup directory path with
  | .ok _ => true
  | .error _ => false

/-- A path leads to a directory. -/
def isDirectory (tree : Tree) (directory : Place) (path : Path) : Bool :=
  match tree.lookup directory path with
  | .ok .directory => true
  | _ => false

/-- The text of the file to which a path leads. -/
def readText (tree : Tree) (directory : Place) (path : Path) : Except OsError String :=
  match tree.lookup directory path with
  | .error error => .error error
  | .ok .directory => .error .isDirectory
  | .ok (.file content) =>
      match String.fromUTF8? content with
      | some text => .ok text
      | none => .error .notText

theorem readText_eq_ok
    {tree : Tree}
    {directory : Place}
    {path : Path}
    {text : String}
    (found : tree.lookup directory path = .ok (.file text.toUTF8)) :
    tree.readText directory path = .ok text := by
  simp only [readText, found, Text.fromUTF8?_toUTF8]

/-- Make a directory. Its parent has to be there. -/
def makeDirectory (tree : Tree) (directory : Place) (path : Path) : Except OsError Tree :=
  match tree.resolve directory path with
  | .error error => .error error
  | .ok target =>
      match tree.entry? target.place with
      | some _ => .error .exists
      | none =>
          match tree.obstacle? target.place.dropLast with
          | some error => .error error
          | none => .ok (tree.set target.place .directory)

/-- Where a file can be created or emptied. -/
def creatable (tree : Tree) (directory : Place) (path : Path) : Except OsError Place :=
  match tree.resolve directory path with
  | .error error => .error error
  | .ok target =>
      match tree.entry? target.place with
      | some .directory => .error .isDirectory
      | some (.file _) => if target.endsInName then .ok target.place else .error .isDirectory
      | none =>
          match tree.obstacle? target.place.dropLast with
          | some error => .error error
          | none => if target.endsInName then .ok target.place else .error .isDirectory

/-- Create an empty file, or empty the one that is there. Its place belongs to the result. -/
def create (tree : Tree) (directory : Place) (path : Path) : Except OsError (Place × Tree) :=
  (fun place => (place, tree.set place (.file .empty))) <$> tree.creatable directory path

/-- Add bytes to the end of the file at a place. -/
def append (tree : Tree) (place : Place) (bytes : List UInt8) : Except OsError Tree :=
  match tree.entry? place with
  | some (.file content) => .ok (tree.set place (.file (content ++ ⟨bytes.toArray⟩)))
  | some .directory => .error .isDirectory
  | none => .error .notFound

end Tree

end Files
end ErrorTemplates
