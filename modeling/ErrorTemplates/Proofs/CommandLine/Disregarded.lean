import ErrorTemplates.Proofs.CommandLine.Keeping
import ErrorTemplates.Proofs.CommandLine.Perform
import ErrorTemplates.Proofs.Files.Overlooked

/-!
# Extractions that disregard a file

An extraction that neither reads nor writes a file does the same when that file has another
content. It is followed in two worlds at once, and keeps them the same but for that content.
-/

namespace ErrorTemplates
namespace CommandLine

open Files

/-- In two worlds that are the same but for the content of a file, the operations on other files do
the same. -/
theorem harmless_exchanged (directory place : Place) (content : ByteArray) :
    Harmless (Semantics.lockstep World) (Exchanged directory place content)
      (fun path => placeNamed directory path ≠ place) (fun opened : Place => opened ≠ place)
      fun _ => True where
  pathExists := overlooks_pathExists
  isDirectory := overlooks_isDirectory
  readText := overlooks_readText
  makeDirectory := overlooks_makeDirectory
  create notNamed exchanged := ends_create notNamed exchanged
  write bytes different := overlooks_write different bytes
  say text _ := overlooks_say _ text
  elapsed := overlooks_elapsed

/-- An action that may fail does the same when the file at a place has another content. -/
abbrev Disregards
    (directory place : Place)
    (content : ByteArray)
    (action : ExceptT Failure (StateM World) α) : Prop :=
  Keeps (Semantics.lockstep World) (fun _ => True) (Exchanged directory place content) action

/-- What an action does that disregards the file. -/
theorem Disregards.perform_eq
    {directory place : Place}
    (content : ByteArray)
    {action : ExceptT Failure (StateM World) α}
    (disregards : Disregards directory place content action)
    {world : World}
    (situated : Situated directory place world) :
    perform action (world.exchanged place content) =
      ((perform action world).1, (perform action world).2.exchanged place content) := by
  obtain ⟨same, ends⟩ := disregards _ (.of situated)
  change (perform action (world.exchanged place content)).1 = (perform action world).1 at same
  refine Prod.ext same ?_
  have perform_eq (system : World) : action.run.run system = perform action system := rfl
  simp only [perform_eq] at ends
  cases result : (perform action world).1 with
  | ok => rw [result] at ends; exact ends.other_eq
  | error => rw [result] at ends; exact ends.2.other_eq

end CommandLine
end ErrorTemplates
