import ErrorTemplates.Proofs.Parse.Reached

/-!
# Readers of single tokens and of lists

What the readers leave from which all others are made.
-/

namespace ErrorTemplates
namespace Program
namespace Parse

/-! ## Failing -/

theorem exists_fail_eq (cause : SyntaxCause) (state : State) :
    ∃ error, (fail cause : Reader α) state = .error error state := by
  obtain ⟨origin, found⟩ := state
  cases found <;> exact ⟨_, rfl⟩

theorem exists_failWith_eq (cause : String -> SyntaxCause) (state : State) :
    ∃ error, (failWith cause : Reader α) state = .error error state :=
  exists_fail_eq _ state

theorem yields_of_fails
    {reader : Reader α}
    (fails : ∀ state, ∃ error, reader state = .error error state)
    (content : α -> List Node) : Yields content reader := by
  intro state sound
  obtain ⟨error, failed⟩ := fails state
  unfold Leaves
  rw [failed]
  exact .start sound

theorem yields_fail (content : α -> List Node) (cause : SyntaxCause) :
    Yields content (fail cause) :=
  yields_of_fails (exists_fail_eq cause) content

theorem yields_failAt (content : α -> List Node) (position : Nat) (cause : SyntaxCause) :
    Yields content (failAt position cause) :=
  yields_of_fails (fun _ => ⟨_, rfl⟩) content

theorem yields_failWith (content : α -> List Node) (cause : String -> SyntaxCause) :
    Yields content (failWith cause) :=
  yields_of_fails (exists_failWith_eq cause) content

/-! ## Single tokens -/

theorem moves_modify
    {change : State -> State}
    (keeps : ∀ state : State, state.Sound -> Reached state.origin state.start [] (change state)) :
    Moves (modify change) :=
  keeps

theorem moves_modify_isModule :
    Moves (modify fun state : State => { state with isModule := true }) :=
  moves_modify fun _ sound => ⟨⟨sound.1, sound.2⟩, rfl, .nil (Nat.le_refl _)⟩

theorem moves_markArrow : Moves markArrow :=
  moves_modify fun _ sound => ⟨⟨sound.1, sound.2⟩, rfl, .nil (Nat.le_refl _)⟩

theorem moves_atEnd : Moves atEnd := fun _ sound => .start sound

theorem moves_bump : Moves bump := moves_modify fun _ sound => (Reached.start sound).advance

/-- A token is passed if it is the one that is looked for. -/
theorem moves_bumpIf (isFound : Bool) :
    Moves (if isFound then do bump; return true else return false) := by
  refine .intro fun state reached => ?_
  split
  · exact reached.move moves_bump fun _ _ reached => .pure reached
  · exact .pure reached

theorem moves_passMark (text : String) : Moves (passMark text) :=
  .intro fun _ reached => .look rfl (reached.last (moves_bumpIf _) fun _ => rfl)

theorem moves_passWord (name : String) : Moves (passWord name) :=
  .intro fun _ reached => .look rfl (reached.last (moves_bumpIf _) fun _ => rfl)

theorem moves_orFail
    {passes : Reader Bool}
    (moves : Moves passes)
    (cause : String -> SyntaxCause) :
    Moves (do if ← passes then return () else failWith cause) := by
  refine .intro fun state reached => ?_
  refine reached.move moves fun passed state reached => ?_
  split
  · exact .pure reached
  · exact reached.last (yields_failWith _ _) fun _ => rfl

theorem moves_needMark (text : String) : Moves (needMark text) :=
  moves_orFail (moves_passMark text) _

theorem moves_needWord (name : String) : Moves (needWord name) :=
  moves_orFail (moves_passWord name) _

theorem moves_passEnd : Moves passEnd := by
  refine .intro fun state reached => ?_
  refine reached.move (moves_passMark ";") fun passed state reached => ?_
  split
  · exact .pure reached
  · exact reached

theorem moves_needEnd : Moves needEnd :=
  moves_orFail moves_passEnd _

/-! ## Passing a mark -/

theorem start_lt_stop_of_isMark
    {state : State}
    {text : String}
    (sound : state.Sound)
    (isMark : state.token.isMark text = true) : state.start < state.stop := by
  unfold Token.isMark at isMark
  split at isMark
  · next mark token_eq => exact sound.start_lt_stop_of_mark mark token_eq
  · simp at isMark

theorem passMark_eq (text : String) (state : State) :
    passMark text state =
      if state.token.isMark text then .ok true state.advance else .ok false state := by
  change (if state.token.isMark text then (do bump; return true) else return false :
    Reader Bool) state = _
  split <;> rfl

theorem needMark_eq (text : String) (state : State) :
    needMark text state =
      if state.token.isMark text then .ok () state.advance
      else failWith (.expected text) state := by
  change EStateM.bind (passMark text) _ state = _
  unfold EStateM.bind
  rw [passMark_eq]
  cases state.token.isMark text <;> rfl

theorem opens_needMark (text : String) : Opens (fun _ => []) (needMark text) := by
  intro state sound
  rw [needMark_eq]
  cases isMark : state.token.isMark text with
  | true =>
      have longer := start_lt_stop_of_isMark sound isMark
      have later := Nat.lt_of_lt_of_le longer (stop_le_start_advance state)
      exact ⟨sound_advance state, rfl, .nil later⟩
  | false =>
      obtain ⟨error, failed⟩ := exists_failWith_eq (α := Unit) (.expected text) state
      simp only [Bool.false_eq_true, if_false, failed]
      exact .start sound

/-- What a reader gives that goes on after a mark is opened by that mark. -/
theorem Opens.bind
    {content : α -> List Node}
    {opener : Reader β}
    {next : β -> Reader α}
    (opens : Opens (fun _ => []) opener)
    (yields : ∀ result, Yields content (next result)) : Opens content (opener >>= next) := by
  intro state sound
  have opened := opens state sound
  change Left state.origin (state.start + 1) state.start content
    (EStateM.bind opener next state)
  unfold EStateM.bind
  cases ran : opener state with
  | error error after =>
      rw [ran] at opened
      exact opened
  | ok result middle =>
      rw [ran] at opened
      have opened : Reached state.origin (state.start + 1) [] middle := opened
      have later := opened.first_le_start
      have left := opened.leaves (yields result)
      unfold Leaves at left
      change Left state.origin (state.start + 1) state.start content (next result middle)
      cases goesOn : next result middle with
      | ok content after =>
          rw [goesOn] at left
          exact left.mono_left later
      | error error after =>
          rw [goesOn] at left
          exact left.mono_left (Nat.le_of_succ_le later)

/-! ## Readers of readers -/

section
variable {content : α -> List Node} {reader : Reader α}

theorem Yields.inContext (yields : Yields content reader) (change : Context -> Context) :
    Yields content (inContext change reader) := by
  intro state sound
  have left := yields { state with context := change state.context } ⟨sound.1, sound.2⟩
  unfold Leaves at left ⊢
  unfold Parse.inContext
  cases ran : reader { state with context := change state.context } with
  | ok result after | error error after =>
      simp only [ran] at left ⊢
      exact left.inContext state.context

theorem Yields.withIn (yields : Yields content reader) (allowed : Bool) :
    Yields content (withIn allowed reader) :=
  yields.inContext _

theorem Yields.inFunction (yields : Yields content reader) (header : FunctionHeader) :
    Yields content (inFunction header reader) :=
  yields.inContext _

theorem Opens.inContext (opens : Opens content reader) (change : Context -> Context) :
    Opens content (inContext change reader) := by
  intro state sound
  have opened := opens { state with context := change state.context } ⟨sound.1, sound.2⟩
  unfold Parse.inContext
  cases ran : reader { state with context := change state.context } with
  | ok result after | error error after =>
      simp only [ran] at opened ⊢
      exact opened.inContext state.context

theorem Opens.inFunction (opens : Opens content reader) (header : FunctionHeader) :
    Opens content (inFunction header reader) :=
  opens.inContext _

/-- A reader that fails has gone forward before the value takes the place of the error. -/
theorem Yields.orElse
    {value : α}
    (yields : Yields content reader)
    (stands : ∀ {origin first state}, Reached origin first [] state ->
      Reached origin first (content value) state) :
    Yields content (orElse reader value) := by
  intro state sound
  have left := yields state sound
  unfold Leaves at left ⊢
  unfold Parse.orElse
  cases ran : reader state with
  | ok result after =>
      simp only [ran] at left ⊢
      exact left
  | error error after =>
      simp only [ran] at left ⊢
      exact stands left

/-- Elements are read one after the other. -/
theorem yields_elements
    {element : Reader (Option α)}
    (yields : Yields (fun found => found.toList.flatMap content) element)
    (limit : Nat) : Yields (fun found => found.flatMap content) (elements element limit) := by
  induction limit with
  | zero => exact yields_fail _ _
  | succ limit inductionHypothesis =>
      refine .intro fun state reached => ?_
      refine reached.read yields fun found state reached => ?_
      cases found with
      | none => exact .pure reached
      | some result =>
          refine reached.read inductionHypothesis fun others state reached => .pure ?_
          simpa using reached

theorem yields_many
    (content : α -> List Node)
    {element : Reader (Option α)}
    (yields : Yields (fun found => found.toList.flatMap content) element) :
    Yields (fun found => found.flatMap content) (many element) :=
  fun state sound => .look rfl (yields_elements yields _ state sound)

theorem yields_separated (yields : Yields content reader) (close : String) :
    Yields (fun found => found.flatMap content) (separated close reader) := by
  refine .intro fun state reached => ?_
  refine reached.move (moves_passMark close) fun passed state reached => ?_
  split
  · exact .pure reached
  refine reached.read yields fun first state reached => ?_
  refine reached.read (yields_many content (.intro fun state reached => ?_))
    fun others state reached => .pure (by simpa using reached)
  refine reached.move (moves_passMark close) fun passed state reached => ?_
  split
  · exact .pure reached
  refine reached.move (moves_needMark ",") fun _ state reached => ?_
  refine reached.move (moves_passMark close) fun passed state reached => ?_
  split
  · exact .pure reached
  · exact reached.read yields fun found state reached => .pure (by simpa using reached)

end

theorem Moves.separated {reader : Reader α} (moves : Moves reader) (close : String) :
    Moves (separated close reader) :=
  (yields_separated moves close).moves

theorem yieldsNodes_many
    {element : Reader (Option Node)}
    (yields : Yields Option.toList element) : YieldsNodes (many element) := by
  simpa using yields_many (fun node => [node]) (by simpa using yields)

/-- Each comma is followed by another element. -/
theorem yieldsNodes_afterCommas
    {element : Reader Node}
    (yields : YieldsNode element) :
    YieldsNodes (many do if ← passMark "," then return some (← element) else return none) := by
  refine yieldsNodes_many (.intro fun state reached => ?_)
  refine reached.move (moves_passMark ",") fun passed state reached => ?_
  split
  · exact reached.read yields fun found state reached => .pure reached
  · exact .pure reached

theorem YieldsNode.separated
    {element : Reader Node}
    (yields : YieldsNode element)
    (close : String) : YieldsNodes (separated close element) := by
  simpa using yields_separated yields close

end Parse
end Program
end ErrorTemplates
