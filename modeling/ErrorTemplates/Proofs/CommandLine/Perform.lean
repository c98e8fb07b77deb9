import ErrorTemplates.CommandLine.Failure

/-!
# What commands do to a system

A command is performed on a state of the system and gives a result and the state afterwards.
-/

namespace ErrorTemplates
namespace CommandLine

open Files

/-- What becomes of a state of the system. -/
def perform (action : ExceptT Failure (StateM σ) α) (before : σ) : Except Failure α × σ :=
  action.run.run before

section
variable {σ α β : Type} (before : σ)

@[simp] theorem perform_pure (result : α) :
    perform (pure result : ExceptT Failure (StateM σ) α) before = (.ok result, before) := rfl

@[simp] theorem perform_throw (failure : Failure) :
    perform (throw failure : ExceptT Failure (StateM σ) α) before = (.error failure, before) := rfl

@[simp] theorem perform_liftM (action : StateM σ α) :
    perform (liftM action : ExceptT Failure (StateM σ) α) before =
      (.ok (action.run before).1, (action.run before).2) := rfl

@[simp] theorem perform_bind
    (action : ExceptT Failure (StateM σ) α)
    (next : α -> ExceptT Failure (StateM σ) β) :
    perform (action >>= next) before =
      match perform action before with
      | (.ok result, after) => perform (next result) after
      | (.error failure, after) => (.error failure, after) := by
  change ((action.run >>= ExceptT.bindCont next).run before) = _
  rw [StateT.run_bind]
  change (ExceptT.bindCont next (perform action before).1).run (perform action before).2 = _
  rcases perform action before with ⟨_ | _, after⟩ <;> rfl

@[simp] theorem perform_attempt
    (failure : OsError -> Failure)
    (action : StateM σ (Except OsError α)) :
    perform (attempt failure action) before =
      match action.run before with
      | (.ok result, after) => (.ok result, after)
      | (.error error, after) => (.error (failure error), after) := by
  rw [attempt, perform_bind, perform_liftM]
  rcases action.run before with ⟨_ | _, after⟩ <;> rfl

/-- What an action that is followed by others ends with is what the others end with. -/
theorem result_ne_of_bind
    {action : ExceptT Failure (StateM σ) α}
    {next : α -> ExceptT Failure (StateM σ) β}
    {unwanted : β}
    (nextDiffers : ∀ result middle, (perform (next result) middle).1 ≠ .ok unwanted)
    (before : σ) : (perform (action >>= next) before).1 ≠ .ok unwanted := by
  rw [perform_bind]
  rcases perform action before with ⟨failure | result, middle⟩
  · simp
  · exact nextDiffers result middle

end

end CommandLine
end ErrorTemplates
