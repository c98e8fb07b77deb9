/-!
# Following actions

To follow an action from a state is to say with what result and in what state it ends. A system is
followed through its states, two systems are followed in lockstep, bytes that wait are followed
beside a system, and an action that may fail is followed up to its end or its failure. The rules
are the same each time, so what every operation preserves is preserved by what is made up of
operations, whichever way it is followed.
-/

namespace ErrorTemplates
namespace Files

/-- A way to follow the actions of a monad through states. -/
structure Semantics (m : Type -> Type) [Monad m] (σ : Type) where
  /-- From a state an action ends with a result and in a state of which something holds. -/
  Ends : {α : Type} -> m α -> σ -> (α -> σ -> Prop) -> Prop
  /-- An action that only has a result ends where it begins. -/
  ends_pure : ∀ {α : Type} {result : α} {before : σ} {isEnd : α -> σ -> Prop},
    isEnd result before -> Ends (pure result) before isEnd
  /-- An action goes on where the one before it ends. -/
  ends_bind : ∀ {α β : Type} {action : m α} {next : α -> m β} {before : σ}
    {isEnd : β -> σ -> Prop},
    Ends action before (fun result middle => Ends (next result) middle isEnd) ->
      Ends (action >>= next) before isEnd
  /-- What follows from what holds at the end holds at the end. -/
  mono : ∀ {α : Type} {action : m α} {before : σ} {isEnd isAlsoEnd : α -> σ -> Prop},
    Ends action before isEnd ->
      (∀ result after, isEnd result after -> isAlsoEnd result after) ->
        Ends action before isAlsoEnd

namespace Semantics

/-! ## Ways to follow actions -/

/-- A system is followed through its states. -/
def states (σ : Type) : Semantics (StateM σ) σ where
  Ends action before isEnd := isEnd (action.run before).1 (action.run before).2
  ends_pure holds := holds
  ends_bind ends := ends
  mono ends implies := implies _ _ ends

/-- Two systems are followed in lockstep as long as they give the same results. -/
def lockstep (σ : Type) : Semantics (StateM σ) (σ × σ) where
  Ends action before isEnd :=
    (action.run before.2).1 = (action.run before.1).1 ∧
      isEnd (action.run before.1).1 ((action.run before.1).2, (action.run before.2).2)
  ends_pure holds := ⟨rfl, holds⟩
  ends_bind := by
    rintro _ _ action next ⟨one, other⟩ isEnd ⟨same, ends⟩
    rw [StateT.run_bind, StateT.run_bind]
    change (action.run other).1 = (action.run one).1 at same
    change ((next (action.run other).1).run _).1 = ((next (action.run one).1).run _).1 ∧
      isEnd ((next (action.run one).1).run _).1
        (((next (action.run one).1).run _).2, ((next (action.run other).1).run _).2)
    rw [same]
    exact ends
  mono ends implies := ⟨ends.1, implies _ _ ends.2⟩

section
variable {m : Type -> Type} [Monad m] {σ : Type}

/-- A state of its own is followed beside the states that are followed anyway. -/
def beside (semantics : Semantics m σ) (τ : Type) : Semantics (StateT τ m) (τ × σ) where
  Ends action before isEnd :=
    semantics.Ends (action.run before.1) before.2 fun result after =>
      isEnd result.1 (result.2, after)
  ends_pure holds := semantics.ends_pure holds
  ends_bind ends := semantics.ends_bind ends
  mono ends implies := semantics.mono ends fun _ _ => implies _ _

/-- An action that may fail is followed up to its end or to a failure of which something holds. -/
def failing (semantics : Semantics m σ) (isFailure : ε -> σ -> Prop) :
    Semantics (ExceptT ε m) σ where
  Ends action before isEnd :=
    semantics.Ends action.run before fun result after =>
      match result with
      | .ok result => isEnd result after
      | .error failure => isFailure failure after
  ends_pure holds := semantics.ends_pure holds
  ends_bind ends := semantics.ends_bind (semantics.mono ends fun result after holds => by
    cases result with
    | ok => exact holds
    | error => exact semantics.ends_pure holds)
  mono ends implies := semantics.mono ends fun result after holds => by
    cases result with
    | ok => exact implies _ _ holds
    | error => exact holds

end

/-! ## What is preserved -/

section
variable {m : Type -> Type} [Monad m] {σ α β : Type} (semantics : Semantics m σ)
variable {holds : σ -> Prop}

/-- What holds before an action holds after it. -/
def Preserves (holds : σ -> Prop) (action : m α) : Prop :=
  ∀ before, holds before -> semantics.Ends action before fun _ after => holds after

variable {semantics}

theorem preserves_pure (result : α) : semantics.Preserves holds (pure result) :=
  fun _ held => semantics.ends_pure held

theorem preserves_bind
    {action : m α}
    {next : α -> m β}
    (preserves : semantics.Preserves holds action)
    (nextPreserves : ∀ result, semantics.Preserves holds (next result)) :
    semantics.Preserves holds (action >>= next) :=
  fun before held => semantics.ends_bind <|
    semantics.mono (preserves before held) fun result => nextPreserves result

/-! ### Failures -/

section
variable {ε : Type} {isFailure : ε -> σ -> Prop}

theorem ends_liftM
    {action : m α}
    {before : σ}
    {isEnd : α -> σ -> Prop}
    [LawfulMonad m]
    (ends : semantics.Ends action before isEnd) :
    (semantics.failing isFailure).Ends (liftM action) before isEnd := by
  change semantics.Ends (Except.ok <$> action) before _
  rw [map_eq_pure_bind]
  exact semantics.ends_bind (semantics.mono ends fun _ _ held => semantics.ends_pure held)

theorem preserves_liftM
    {action : m α}
    [LawfulMonad m]
    (preserves : semantics.Preserves holds action) :
    (semantics.failing isFailure).Preserves holds (liftM action) :=
  fun before held => ends_liftM (preserves before held)

theorem preserves_throw
    {failure : ε}
    (fails : ∀ before, holds before -> isFailure failure before) :
    (semantics.failing isFailure).Preserves holds (throw failure : ExceptT ε m α) :=
  fun before held => semantics.ends_pure (fails before held)

end

end

end Semantics

end Files
end ErrorTemplates
