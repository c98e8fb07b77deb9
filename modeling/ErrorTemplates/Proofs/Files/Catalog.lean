import ErrorTemplates.Proofs.Extraction.Taking
import ErrorTemplates.Proofs.Files.Faithful
import ErrorTemplates.Proofs.Files.Places

/-!
# Catalogs of files

A catalog says to which file a path leads and what is in a file. Several paths may lead to one file.
A host stores files in a catalog when its operations do this: making a directory leaves everything
where it is, creating a file opens an empty one, and writing adds bytes to the file that is open.
Each of them may fail, and then it has no effect. Worlds store files.
-/

namespace ErrorTemplates
namespace Files

open Extraction.Sink (partTaken)
open Text (utf8)

/-- Which files there are, and what is in them. -/
structure Catalog (σ φ ι : Type) [Host (StateM σ)] where
  /-- The file to which a path leads. -/
  file? : φ -> Path -> Option ι
  /-- The bytes in a file. -/
  content : φ -> ι -> List UInt8
  /-- What is written to an open file is added to the end of a file. -/
  isAtEnd : σ -> Host.File (StateM σ) -> ι -> Prop

namespace Catalog

section
variable {σ φ ι : Type} [Host (StateM σ)] (catalog : Catalog σ φ ι)

/-- A path leads to a file with exactly this text. -/
def Holds (files : φ) (path : Path) (text : String) : Prop :=
  (catalog.file? files path).map (catalog.content files) = some (utf8 text)

instance (files : φ) (path : Path) (text : String) : Decidable (catalog.Holds files path text) :=
  inferInstanceAs (Decidable (_ = _))

/-- Paths that lead to files still lead there, and no files but some may have changed. -/
structure StaysBut (mayChange : ι -> Prop) (before after : φ) : Prop where
  /-- Paths still lead to their files. -/
  leads : ∀ {path file}, catalog.file? before path = some file ->
    catalog.file? after path = some file
  /-- The other files have not changed. -/
  contents : ∀ {path file}, catalog.file? before path = some file -> ¬ mayChange file ->
    catalog.content after file = catalog.content before file

namespace StaysBut

variable {catalog} {mayChange : ι -> Prop} {before middle after : φ}

theorem refl (mayChange : ι -> Prop) (files : φ) : catalog.StaysBut mayChange files files :=
  ⟨id, fun _ _ => rfl⟩

theorem trans
    (first : catalog.StaysBut mayChange before middle)
    (second : catalog.StaysBut mayChange middle after) :
    catalog.StaysBut mayChange before after :=
  ⟨fun leads => second.leads (first.leads leads), fun leads unchanged =>
    (second.contents (first.leads leads) unchanged).trans (first.contents leads unchanged)⟩

theorem weaken
    (stays : catalog.StaysBut (fun _ => False) before after)
    (mayChange : ι -> Prop) : catalog.StaysBut mayChange before after :=
  ⟨stays.leads, fun leads _ => stays.contents leads id⟩

end StaysBut

/-- A host stores files. -/
structure Stores (view : View σ φ) : Prop where
  /-- To make a directory leaves all files as they are. -/
  makeDirectory : ∀ path (system : σ), catalog.StaysBut (fun _ => False) (view.files system)
    (view.files ((Host.makeDirectory (m := StateM σ) path).run system).2)
  /-- To create a file opens it at its end, which is its beginning, or leaves all files as they
  are. -/
  create : ∀ path (system : σ) result after,
    (Host.create (m := StateM σ) path).run system = (result, after) ->
      match result with
      | .error _ => catalog.StaysBut (fun _ => False) (view.files system) (view.files after)
      | .ok opened => ∃ file, catalog.file? (view.files after) path = some file ∧
          catalog.content (view.files after) file = [] ∧ catalog.isAtEnd after opened file ∧
          catalog.StaysBut (· = file) (view.files system) (view.files after)
  /-- To write adds as many bytes to the file as the host says, or none. -/
  write : ∀ {file} opened bytes (system : σ) result after,
    (Host.write (m := StateM σ) opened bytes).run system = (result, after) ->
      catalog.isAtEnd system opened file ->
        catalog.content (view.files after) file =
            catalog.content (view.files system) file ++ partTaken bytes result ∧
          catalog.isAtEnd after opened file ∧
          catalog.StaysBut (· = file) (view.files system) (view.files after)

end

end Catalog

/-! ## Files in worlds -/

namespace World

/-- The files of a world, each at its place. -/
def catalog : Catalog World (Tree × Place) Place where
  file? files path := files.1.file? files.2 path
  content
    | (tree, _), place =>
      match tree.entry? place with
      | some (.file content) => content.toList
      | _ => []
  isAtEnd _ opened file := opened = file

/-- What stays in a tree stays in the catalog. -/
theorem staysBut_catalog
    {mayChange : Place -> Prop}
    {before after : Tree}
    (stays : before.StaysBut mayChange after)
    (directory : Place) : catalog.StaysBut mayChange (before, directory) (after, directory) where
  leads leads := by
    obtain ⟨resolved, _, isFile⟩ := Tree.file?_eq_some_iff.mp leads
    exact Tree.file?_eq_some_iff.mpr ⟨Tree.resolve_of_staysBut stays resolved, stays.files isFile⟩
  contents leads unchanged := by
    obtain ⟨_, _, isFile⟩ := Tree.file?_eq_some_iff.mp leads
    simp only [catalog, isFile, stays.others unchanged isFile]

theorem content_catalog
    {tree : Tree}
    {place : Place}
    {content : ByteArray}
    (isFile : tree.entry? place = some (.file content))
    (directory : Place) : catalog.content (tree, directory) place = content.toList := by
  simp only [catalog, isFile]

/-- To put a file where no directory is leaves all other files as they are. -/
theorem staysBut_set_file
    {tree : Tree}
    {place : Place}
    (notDirectory : tree.entry? place ≠ some .directory)
    (content : ByteArray)
    (directory : Place) :
    catalog.StaysBut (· = place) (tree, directory) (tree.set place (.file content), directory) :=
  staysBut_catalog (Tree.StaysBut.set_file notDirectory content) directory

section
variable {world after : World} {path : Path} {place : Place} {bytes : List UInt8} {count : Nat}

/-- A file that is created is empty, and its path leads to it. -/
theorem catalog_of_create (created : create path world = .ok (place, after)) :
    catalog.file? (view.files after) path = some place ∧
      catalog.content (view.files after) place = [] ∧
      catalog.StaysBut (· = place) (view.files world) (view.files after) := by
  obtain ⟨tree, inTree, rfl⟩ := create_eq_ok created
  obtain ⟨resolved, notDirectory, rfl⟩ := Tree.create_eq_ok inTree
  have isThere := Tree.entryAt_set_self (Tree.ne_root notDirectory) world.tree (.file .empty)
  have stays := Tree.StaysBut.set_file notDirectory .empty
  refine ⟨?_, (content_catalog isThere _).trans (Text.toList_byteArray _),
    staysBut_set_file notDirectory .empty world.directory⟩
  exact Tree.file?_eq_some_iff.mpr ⟨Tree.resolve_of_staysBut stays resolved, _, isThere⟩

/-- To write adds the first bytes to the file. -/
theorem catalog_of_write (written : write place bytes world = .ok (count, after)) :
    catalog.content (view.files after) place =
        catalog.content (view.files world) place ++ bytes.take count ∧
      catalog.StaysBut (· = place) (view.files world) (view.files after) := by
  obtain ⟨tree, inTree, rfl, rfl⟩ := write_eq_ok written
  obtain ⟨content, isFile, rfl⟩ := Tree.append_eq_ok inTree
  have notDirectory : world.tree.entry? place ≠ some .directory := by simp [isFile]
  refine ⟨?_, staysBut_set_file notDirectory _ world.directory⟩
  have isThere := Tree.entryAt_set_self (Tree.ne_root notDirectory) world.tree
    (.file (content ++ ⟨(fitting world.room bytes).toArray⟩))
  have part_eq := List.prefix_iff_eq_take.mp (fitting_begins world.room bytes)
  have content_eq := content_catalog isFile world.directory
  have part_toList : (⟨(fitting world.room bytes).toArray⟩ : ByteArray).toList =
      fitting world.room bytes :=
    Text.toList_byteArray _
  rw [← part_eq]
  refine (content_catalog isThere _).trans ?_
  rw [Text.toList_append_byteArray, part_toList, ← content_eq]
  rfl

end

/-- Worlds store files. -/
theorem stores : catalog.Stores view where
  makeDirectory path world := by
    rcases run_change (makeDirectory path) world with ⟨_, _, made, ran⟩ | ⟨_, _, ran⟩
    · obtain ⟨_, inTree, rfl⟩ := makeDirectory_eq_ok made
      exact ran ▸ staysBut_catalog (Tree.staysBut_of_makeDirectory inTree) world.directory
    · exact ran ▸ .refl _ _
  create path world result after ended := by
    change (change (create path)).run world = _ at ended
    rcases run_change (create path) world with ⟨place, _, created, ran⟩ | ⟨_, _, ran⟩
    · obtain ⟨rfl, rfl⟩ := Prod.mk.inj (ran.symm.trans ended)
      obtain ⟨leads, isEmpty, stays⟩ := catalog_of_create created
      exact ⟨place, leads, isEmpty, rfl, stays⟩
    · obtain ⟨rfl, rfl⟩ := Prod.mk.inj (ran.symm.trans ended)
      exact .refl _ _
  write {file} opened bytes world result after ended atEnd := by
    obtain rfl : opened = file := atEnd
    change (change (write opened bytes)).run world = _ at ended
    rcases run_change (write opened bytes) world with ⟨_, _, written, ran⟩ | ⟨_, _, ran⟩
    · obtain ⟨rfl, rfl⟩ := Prod.mk.inj (ran.symm.trans ended)
      obtain ⟨content_eq, stays⟩ := catalog_of_write written
      exact ⟨content_eq, rfl, stays⟩
    · obtain ⟨rfl, rfl⟩ := Prod.mk.inj (ran.symm.trans ended)
      exact ⟨(List.append_nil _).symm, rfl, .refl _ _⟩

end World

end Files
end ErrorTemplates
