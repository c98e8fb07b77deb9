import ErrorTemplates.Program.Parse.Primary
import ErrorTemplates.Proofs.Parse.Functions

/-!
# Operands in text order

Literals, names, arrays, objects, functions and expressions in parentheses. Where an arrow
follows, the nodes that were read become parameters and stay where they are.
-/

namespace ErrorTemplates
namespace Program
namespace Parse

namespace Reached

variable {origin : Origin} {first : Nat} {nodes : List Node} {state : State}

/-- A step that converts what was read before. -/
theorem convert
    {content : α -> List Node}
    {outcome : Except SyntaxError β}
    {next : β -> Reader α}
    (reached : Reached origin first nodes state)
    (rest : ∀ result, outcome = .ok result -> Leaves origin first content (next result) state) :
    Leaves origin first content (converted outcome >>= next) state := by
  cases outcome with
  | error error => exact reached.forget
  | ok result => exact .look rfl (rest result rfl)

/-- Nodes that become patterns stay where they are. -/
theorem toPatterns
    {patterns : List Node}
    (reached : Reached origin first nodes state)
    (convert : Node.toPatterns nodes = .ok patterns) : Reached origin first patterns state :=
  ⟨reached.sound, reached.origin_eq, inTextOrder_toPatterns convert reached.inOrder⟩

theorem toTarget
    {operator : String}
    {node target : Node}
    (reached : Reached origin first [node] state)
    (converts : node.toTarget operator = .ok target) : Reached origin first [target] state :=
  ⟨reached.sound, reached.origin_eq, inTextOrder_toTarget converts reached.inOrder⟩

/-- A call stands where its callee begins, which is before what its parenthesis opens. -/
theorem call
    {callee : Node}
    {arguments : List Node}
    {span : Span}
    {after : State}
    (reached : Reached origin first [callee] state)
    (opened : Reached origin (state.start + 1) arguments after)
    (start_eq : span.start = first)
    (belongs : span.origin = origin) :
    Reached origin first [.call span callee arguments] after := by
  subst start_eq
  refine ⟨opened.sound, opened.origin_eq,
    .call belongs (Nat.le_refl _) reached.inOrder (Nat.lt_succ_self _) ?_⟩
  rw [List.append_nil]
  exact opened.inOrder

end Reached

/-! ## Templates and regular expressions -/

theorem moves_templateChunk (isChecked : Bool) : Moves (templateChunk isChecked) := by
  refine .intro fun state reached => .look rfl ?_
  split
  · exact yields_failAt _ _ _ state reached.sound
  extract_lets continues closing rest
  have nonempty : closing ≠ [] := by
    unfold closing
    split <;> simp
  have leaves : Leaves state.origin state.start (fun _ => []) (rest ()) state := by
    refine .look rfl (.look rfl (.pure ?_))
    exact (reached.extend (by simp [nonempty])).advance
  split
  · split
    · exact leaves
    · exact reached.stop ⟨_, rfl⟩
  · exact leaves

theorem yieldsNode_pattern : YieldsNode pattern := by
  refine .intro fun state reached => .look rfl ?_
  split
  · exact yields_failAt _ _ _ state reached.sound
  · refine .look rfl (.look rfl ?_)
    exact (reached.extend (by simp)).advance.nodeFrom _ rfl

section
variable {read : Readers} (inOrder : InOrder read)
include inOrder

theorem yields_substitutions (isChecked : Bool) (limit : Nat) :
    Yields (fun parts => parts.map Prod.fst) (template.substitutions read isChecked limit) := by
  induction limit with
  | zero => exact yields_fail _ _
  | succ limit inductionHypothesis =>
      refine .intro fun initial reached => ?_
      refine reached.read (yieldsNode_wholeExpression inOrder) fun inner state reached => ?_
      refine .look rfl ?_
      extract_lets rest
      have leaves : Leaves initial.origin initial.start (fun parts => parts.map Prod.fst) (rest ())
          state := by
        refine reached.move (moves_templateChunk _) fun chunk state reached => ?_
        split
        split
        · refine reached.read inductionHypothesis fun parts state reached => .pure ?_
          exact reached
        · exact .pure reached
      split
      · exact reached.stop (exists_failWith_eq _ state)
      · exact leaves

theorem yieldsNode_template (isTagged : Bool) : YieldsNode (template read isTagged) := by
  refine .intro fun state reached => .look rfl ?_
  refine reached.move (moves_templateChunk _) fun chunk state reached => ?_
  split
  split
  · exact reached.nodeFrom _ rfl
  · refine .look rfl ?_
    exact reached.read (yields_substitutions inOrder _ _) fun parts state reached =>
      reached.nodeFrom _ rfl

/-! ## Arrow functions -/

theorem leaves_arrowRest
    {origin : Origin} {first : Nat}
    {parameters : List Node}
    {state : State}
    (reached : Reached origin first parameters state)
    (start : Nat)
    (isAsync : Bool) :
    Leaves origin first (fun node => [node]) (arrowRest read start isAsync parameters) state := by
  refine reached.move (moves_needMark "=>") fun _ state reached => .look rfl ?_
  extract_lets allowsIn
  refine reached.read ((Yields.intro fun state reached => .look rfl ?_).inFunction _)
    fun body state reached => reached.nodeFrom _ rfl
  split
  · exact inOrder .block state reached.sound
  · exact (inOrder .assignment).withIn allowsIn state reached.sound

theorem yieldsNode_nameOrArrow (mayBeArrow : Bool) (start : Nat) (isAsync : Bool) :
    YieldsNode (nameOrArrow read mayBeArrow start isAsync) := by
  refine .intro fun state reached => .look rfl (.look rfl ?_)
  split
  · exact reached.last (yields_fail _ _) fun _ => rfl
  refine reached.move moves_bump fun _ state reached => .look rfl (.look rfl ?_)
  split
  · exact leaves_arrowRest inOrder (reached.cons rfl rfl) _ _
  · exact .pure (reached.cons rfl rfl)

theorem yieldsNode_parenthesized (mayBeArrow : Bool) :
    YieldsNode (parenthesized read mayBeArrow) := by
  refine .intro fun initial reached => .look rfl ?_
  refine reached.move (moves_needMark "(") fun _ state reached => ?_
  refine reached.read ((yieldsNode_element inOrder).separated ")") fun inner state reached => ?_
  refine .look rfl (.look rfl ?_)
  split
  · extract_lets rest
    have leaves : Leaves initial.origin initial.start (fun node => [node]) (rest ()) state :=
      reached.convert fun parameters convert =>
        leaves_arrowRest inOrder (reached.toPatterns convert) _ _
    split
    · exact reached.stop ⟨_, rfl⟩
    · exact leaves
  extract_lets rest
  have leaves : Leaves initial.origin initial.start (fun node => [node]) (rest ()) state := by
    unfold rest
    split
    · exact reached.last (yields_failAt _ _ _) fun _ => rfl
    · exact .pure (reached.node rfl rfl)
    · exact .pure ((reached.node rfl rfl).node rfl rfl)
  split
  · exact reached.stop ⟨_, rfl⟩
  · exact leaves

theorem yieldsNode_asyncExpression (mayBeArrow : Bool) :
    YieldsNode (asyncExpression read mayBeArrow) := by
  refine .intro fun initial reached => .look rfl ?_
  refine reached.move moves_followingOnLine fun next state reached => ?_
  split
  · exact reached.last (yieldsNode_functionExpression inOrder) fun _ => rfl
  split
  · exact reached.last (yieldsNode_nameOrArrow inOrder _ _ _) fun _ => rfl
  refine .look rfl ?_
  split
  · refine reached.move moves_bump fun _ state reached => ?_
    exact reached.last (yieldsNode_nameOrArrow inOrder _ _ _) fun _ => rfl
  refine reached.move moves_bump fun _ state reached => .look rfl ?_
  extract_lets name
  have named : Reached initial.origin initial.start [name] state := reached.cons rfl rfl
  refine .look rfl ?_
  split
  · exact leaves_arrowRest inOrder named _ _
  split
  · refine named.readOpened (opens_arguments inOrder) fun given after opened => .look rfl ?_
    split
    · have further := opened.mono_left (Nat.le_succ_of_le named.first_le_start)
      refine further.convert fun parameters convert => ?_
      exact leaves_arrowRest inOrder (further.toPatterns convert) _ _
    · exact .look rfl (.pure (named.call opened rfl opened.origin_eq))
  · exact .pure named

/-! ## Objects -/

theorem yieldsNode_objectProperty : YieldsNode (objectProperty read) := by
  refine .intro fun initial reached => .look rfl (.look rfl ?_)
  split
  · exact reached.last (yieldsNode_element inOrder) fun _ => rfl
  refine reached.move moves_passAsync fun isAsync state reached => ?_
  refine reached.move (moves_passMark "*") fun isGenerator state reached => ?_
  extract_lets rest
  have yields (kind : MethodKind) : YieldsNode (rest kind) := by
    refine .intro fun state reached => .look rfl ?_
    refine reached.read (yieldsNode_propertyKey inOrder) fun key state reached => .look rfl ?_
    split
    · exact leaves_methodRest inOrder reached _ _ _ _
    refine reached.move (moves_passMark ":") fun passed state reached => ?_
    split
    · exact reached.read (yieldsNode_value inOrder) fun value state reached =>
        reached.nodeFrom _ rfl
    split
    · exact reached.forget.last (yields_failWith _ _) fun _ => rfl
    refine .look rfl ?_
    refine reached.move (moves_passMark "=") fun passed state reached => ?_
    split
    · refine reached.forget.read (yieldsNode_value inOrder) fun value state reached => ?_
      exact Reached.nodeFrom (reached.cons rfl rfl) _ rfl
    refine .look rfl (.look rfl ?_)
    split
    · exact .pure (reached.forget.cons rfl rfl)
    · exact reached.forget.last (yields_failWith _ _) fun _ => rfl
  split
  · exact .look rfl (reached.last (yields _) fun _ => rfl)
  · exact reached.move moves_methodKind fun kind state reached =>
      reached.last (yields kind) fun _ => rfl

/-! ## All of them -/

omit inOrder in
theorem yieldsNode_importExpression : YieldsNode importExpression := by
  refine .intro fun initial reached => .look rfl ?_
  refine reached.move moves_bump fun _ state reached => ?_
  refine reached.move (moves_passMark ".") fun passed state reached => ?_
  split
  · refine reached.move (moves_needWord "meta") fun _ state reached => ?_
    exact reached.move moves_modify_isModule fun _ state reached => reached.nodeFrom _ rfl
  refine .look rfl ?_
  split
  · exact reached.nodeFrom _ rfl
  · exact reached.last (yields_failWith _ _) fun _ => rfl

theorem yieldsNode_primary : YieldsNode (primary read) := by
  refine .intro fun initial reached => .look rfl (.look rfl (.look rfl ?_))
  split
  · exact reached.move moves_bump fun _ state reached => .look rfl (reached.cons rfl rfl)
  · exact reached.move moves_bump fun _ state reached => reached.nodeFrom _ rfl
  · exact reached.move moves_bump fun _ state reached => reached.nodeFrom _ rfl
  · exact reached.move moves_bump fun _ state reached => reached.nodeFrom _ rfl
  · exact yieldsNode_parenthesized inOrder _ initial reached.sound
  · exact yieldsNode_template inOrder false initial reached.sound
  · exact yieldsNode_pattern initial reached.sound
  · exact yieldsNode_pattern initial reached.sound
  · refine reached.move moves_bump fun _ state reached => ?_
    exact reached.read (yieldsNodes_arrayElements (yieldsNode_element inOrder))
      fun children state reached => reached.nodeFrom _ rfl
  · split
    · refine reached.move moves_bump fun _ state reached => ?_
      exact reached.read (yieldsNodes_objectProperties (yieldsNode_objectProperty inOrder))
        fun children state reached => reached.nodeFrom _ rfl
    · exact yields_fail _ _ initial reached.sound
  · split
    · exact reached.move moves_bump fun _ state reached => reached.nodeFrom _ rfl
    split
    · exact yieldsNode_functionExpression inOrder initial reached.sound
    split
    · exact yieldsNode_classRest inOrder (fun _ _ => rfl) false initial reached.sound
    split
    · exact yieldsNode_importExpression initial reached.sound
    split
    · exact yieldsNode_asyncExpression inOrder _ initial reached.sound
    · exact yieldsNode_nameOrArrow inOrder _ _ _ initial reached.sound
  · exact yieldsNode_nameOrArrow inOrder _ _ _ initial reached.sound
  · exact yields_fail _ _ initial reached.sound
  · exact yields_fail _ _ initial reached.sound

end

end Parse
end Program
end ErrorTemplates
