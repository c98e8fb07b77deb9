import ErrorTemplates.Proofs.CommandLine.Disregarded
import ErrorTemplates.Proofs.CommandLine.Stages

/-!
# What is loaded from a configuration file

The file that is found does not depend on what is in it. What is loaded is read from the text of
that file, so another text in the file is another configuration from the same place.
-/

namespace ErrorTemplates
namespace CommandLine

open Files

section
variable {world : World} {directory path : Path} {loaded : Config.Loaded}

/-- To look for a configuration file changes nothing. -/
theorem find_unchanged (directory : Path) (world : World) :
    ((Config.find (m := StateM World) directory).run world).2 = world :=
  (asking_of_faithful World.faithful world).preserves_findFrom _ directory world rfl

/-- What is loaded is in the file that was found. -/
theorem run_load
    (found : ((Config.find (m := StateM World) directory).run world).1 = some path) :
    (Config.load (m := StateM World) directory).run world =
      (Config.loadFile (m := StateM World) directory path).run world := by
  have same : (Config.find (m := StateM World) directory).run world = (some path, world) :=
    Prod.ext found (find_unchanged directory world)
  rw [Config.load, StateT.run_bind, same]
  rfl

/-- The configuration in a text that was read from a file. -/
def loadText (directory path : Path) :
    Except OsError String -> Except Config.LoadError Config.Loaded
  | .error error => .error (.unreadable path error)
  | .ok text =>
      match Config.parse text with
      | .error fault => .error (.malformed path text fault)
      | .ok config =>
          match config.validate with
          | .error reason => .error (.invalid reason)
          | .ok () => .ok { config, base := path.parent?.getD directory, fromFile := true }

theorem loadFile_eq (directory path : Path) :
    Config.loadFile (m := StateM World) directory path = (do
      let text? ← Host.readText (m := StateM World) path
      return loadText directory path text?) := by
  rw [Config.loadFile]
  congr 1
  funext text?
  cases text? with
  | error => rfl
  | ok text =>
      simp only [loadText]
      cases Config.parse text with
      | error => rfl
      | ok config =>
          simp only
          cases config.validate <;> rfl

theorem run_loadFile (directory path : Path) (world : World) :
    (Config.loadFile (m := StateM World) directory path).run world =
      (loadText directory path (world.tree.readText world.directory path), world) := by
  rw [loadFile_eq]
  rfl

/-- A configuration that is loaded from a file is valid, and its paths are relative to the
directory of the file. -/
theorem eq_of_loadText
    {text? : Except OsError String}
    (loads : loadText directory path text? = .ok loaded) :
    (∃ text, text? = .ok text) ∧ loaded.config.validate = .ok () ∧
      loaded =
        { config := loaded.config, base := path.parent?.getD directory, fromFile := true } := by
  cases text? with
  | error error => simp [loadText] at loads
  | ok text =>
      cases parses : Config.parse text with
      | error fault => simp [loadText, parses] at loads
      | ok config =>
          cases valid : config.validate with
          | error reason => simp [loadText, parses, valid] at loads
          | ok =>
              obtain rfl : _ = loaded := by simpa [loadText, parses, valid] using loads
              exact ⟨⟨text, rfl⟩, valid, rfl⟩

end

/-- With another text in the configuration file, the configuration of that text is loaded from
the same place. -/
theorem run_load_exchanged
    {world : World}
    {directory path : Path}
    {loaded : Config.Loaded}
    {text : String}
    {config : Config}
    (found : ((Config.find (m := StateM World) directory).run world).1 = some path)
    (loads : ((Config.load (m := StateM World) directory).run world).1 = .ok loaded)
    (parses : Config.parse text = .ok config)
    (valid : config.validate = .ok ()) :
    let place := placeNamed world.directory path
    let rewritten := world.exchanged place text.toUTF8
    Situated world.directory place world ∧
      loaded.config.validate = .ok () ∧
      (Config.load (m := StateM World) directory).run world = (.ok loaded, world) ∧
      (Config.load (m := StateM World) directory).run rewritten =
        (.ok { loaded with config }, rewritten) := by
  intro place rewritten
  rw [run_load found, run_loadFile] at loads
  obtain ⟨⟨old, isText⟩, loadedValid, loaded_eq⟩ := eq_of_loadText loads
  have situated : Situated world.directory place world := ⟨rfl, Tree.isFileAt_of_readText isText⟩
  have foundThen : ((Config.find (m := StateM World) directory).run rewritten).1 = some path := by
    have overlooks : Overlooks world.directory place text.toUTF8
        (Config.findFrom (m := StateM World) (directory.length + 1) directory) :=
      (harmless_exchanged world.directory place text.toUTF8).preserves_findFrom _ directory
    rw [Config.find, overlooks.run_eq situated]
    exact found
  have textThen : rewritten.tree.readText rewritten.directory path = .ok text :=
    Tree.readText_exchanged_self isText text
  refine ⟨situated, loadedValid, ?_, ?_⟩
  · rw [run_load found, run_loadFile]
    exact congrArg (·, world) loads
  · rw [run_load foundThen, run_loadFile, textThen, loaded_eq]
    simp only [loadText, parses, valid]

end CommandLine
end ErrorTemplates
