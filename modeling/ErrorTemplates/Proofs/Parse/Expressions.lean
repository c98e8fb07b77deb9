import ErrorTemplates.Program.Parse.Expression
import ErrorTemplates.Proofs.Parse.Operands

/-!
# Expressions in text order

Members and calls are added to the expression before them, operators join what stands on
their two sides, and the left side of an assignment stays where it is when it becomes a
pattern.
-/

namespace ErrorTemplates
namespace Program
namespace Parse

/-- What each step of a repetition keeps, the whole repetition keeps. -/
theorem leaves_repeated
    {origin : Origin} {first : Nat}
    {content : α -> List Node}
    {step : α -> Reader (Option α)}
    (keeps : ∀ current state, Reached origin first (content current) state ->
      Leaves origin first (fun next => content (next.getD current)) (step current) state)
    (limit : Nat)
    {current : α}
    {state : State}
    (reached : Reached origin first (content current) state) :
    Leaves origin first content (repeated step limit current) state := by
  induction limit generalizing current state with
  | zero => exact reached.forget.last (yields_fail _ _) fun _ => rfl
  | succ limit inductionHypothesis =>
      refine (keeps current state reached).bind fun next state reached => ?_
      cases next with
      | none => exact .pure reached
      | some next => exact inductionHypothesis reached

/-! ## Members and calls -/

theorem moves_memberName : Moves memberName := by
  refine .intro fun initial reached => .look rfl ?_
  split
  · exact reached.move moves_bump fun _ state reached => .pure reached
  · exact reached.move moves_bump fun _ state reached => .pure reached
  · exact reached.last (yields_fail _ _) fun _ => rfl

section
variable {read : Readers} (inOrder : InOrder read)
include inOrder

theorem leaves_optionalLink
    {origin : Origin} {first : Nat}
    {node : Node}
    {state : State}
    (reached : Reached origin first [node] state)
    (start : Nat) :
    Leaves origin first (fun node => [node]) (optionalLink read start node) state := by
  refine .look rfl ?_
  split
  · exact reached.read (opens_arguments inOrder).yields fun given state reached =>
      reached.nodeFrom _ rfl
  · refine reached.move moves_bump fun _ state reached => ?_
    refine reached.read (yieldsNode_wholeExpression inOrder) fun inner state reached => ?_
    exact reached.move (moves_needMark "]") fun _ state reached => reached.nodeFrom _ rfl
  · exact reached.move moves_memberName fun name state reached => reached.nodeFrom _ rfl

/-- A member or a call takes the expression before it in. -/
theorem leaves_link
    {origin : Origin} {first : Nat}
    {chain : Chain}
    {state : State}
    (reached : Reached origin first [chain.node] state)
    (allowsCalls : Bool) :
    Leaves origin first (fun next => [(next.getD chain).node]) (link read first allowsCalls chain)
      state := by
  refine .look rfl ?_
  split
  · refine reached.move moves_bump fun _ state reached => ?_
    refine reached.move moves_memberName fun name state reached => ?_
    exact (reached.nodeFrom _ rfl).bind fun node state reached => .pure reached
  · refine reached.move moves_bump fun _ state reached => ?_
    refine reached.read (yieldsNode_wholeExpression inOrder) fun inner state reached => ?_
    refine reached.move (moves_needMark "]") fun _ state reached => ?_
    exact (reached.nodeFrom _ rfl).bind fun node state reached => .pure reached
  · refine reached.read (yieldsNode_template inOrder true) fun text state reached => ?_
    exact (reached.nodeFrom _ rfl).bind fun node state reached => .pure reached
  · split
    · exact .pure reached
    refine reached.readOpened (opens_arguments inOrder) fun given after opened => ?_
    split
    · have further := reached.append (opened.mono_left (Nat.le_succ _))
      exact (further.nodeFrom _ rfl).bind fun node state reached => .pure reached
    · exact .look rfl (.pure (reached.call opened rfl opened.origin_eq))
  · split
    · exact .pure reached
    refine reached.move moves_bump fun _ state reached => ?_
    exact (leaves_optionalLink inOrder reached _).bind fun node state reached => .pure reached
  · exact .pure reached

theorem leaves_links
    {origin : Origin} {first : Nat}
    {node : Node}
    {state : State}
    (reached : Reached origin first [node] state)
    (allowsCalls : Bool) :
    Leaves origin first (fun node => [node]) (links read first allowsCalls node) state := by
  refine .look rfl (Leaves.bind (leaves_repeated ?_ _ reached) fun chain state reached =>
    .pure reached)
  exact fun chain state reached => leaves_link inOrder reached allowsCalls

theorem yieldsNode_constructed : YieldsNode (constructed read) := by
  refine .intro fun initial reached => .look rfl ?_
  refine reached.move (moves_passWord "new") fun passed state reached => ?_
  split
  · refine reached.move (moves_passMark ".") fun passed state reached => ?_
    split
    · refine reached.move (moves_needWord "target") fun _ state reached => ?_
      exact (reached.nodeFrom _ rfl).bind fun node state reached => leaves_links inOrder reached _
    refine reached.read (inOrder .constructed) fun callee state reached => .look rfl ?_
    split
    · exact reached.stop ⟨_, rfl⟩
    refine .look rfl ?_
    split
    · refine reached.read (opens_arguments inOrder).yields fun given state reached => ?_
      exact .look rfl (leaves_links inOrder (reached.node rfl rfl) _)
    · exact reached.nodeFrom _ rfl
  · refine reached.read (yieldsNode_primary inOrder) fun node state reached => ?_
    split
    · exact .pure reached
    · exact leaves_links inOrder reached _

theorem yieldsNode_operand : YieldsNode (operand read) := by
  refine .intro fun initial reached => .look rfl ?_
  refine reached.read (inOrder .constructed) fun node state reached => ?_
  split
  · exact .pure reached
  · exact leaves_links inOrder reached _

/-! ## Operators -/

/-- An operand that cannot be read stands for nothing, and reading goes on behind it. -/
theorem yieldsNode_unaryOperand : YieldsNode (unaryOperand read) := by
  refine .intro fun initial reached => .look rfl ?_
  refine Yields.orElse (inOrder .unary) ?_ initial reached.sound
  intro origin first state reached
  exact reached.cons rfl rfl

omit inOrder in
theorem moves_awaits : Moves awaits := by
  refine .intro fun initial reached => .look rfl ?_
  exact reached.move moves_followingOnLine fun next state reached => .pure reached

omit inOrder in
theorem moves_awaitOperator : Moves awaitOperator := by
  refine .intro fun initial reached => .look rfl ?_
  extract_lets rest
  split
  · exact reached.last moves_bump fun _ => rfl
  · exact reached.move moves_modify_isModule fun _ state reached =>
      reached.last moves_bump fun _ => rfl

theorem yieldsNode_updated : YieldsNode (updated read) := by
  refine .intro fun initial reached => .look rfl ?_
  refine reached.read (inOrder .operand) fun node state reached => .look rfl ?_
  split
  · exact .pure reached
  refine .look rfl ?_
  split
  · split
    · exact reached.move moves_bump fun _ state reached => reached.nodeFrom _ rfl
    · exact .pure reached
  · exact .pure reached

theorem yieldsNode_unary : YieldsNode (unary read) := by
  refine .intro fun initial reached => .look rfl (.look rfl ?_)
  split
  · split
    · refine reached.move moves_bump fun _ state reached => ?_
      exact reached.read (yieldsNode_unaryOperand inOrder) fun inner state reached =>
        reached.nodeFrom _ rfl
    split
    · refine reached.move moves_bump fun _ state reached => ?_
      exact reached.read (inOrder .unary) fun inner state reached => reached.nodeFrom _ rfl
    · exact yieldsNode_updated inOrder initial reached.sound
  · split
    · refine reached.move moves_bump fun _ state reached => ?_
      exact reached.read (yieldsNode_unaryOperand inOrder) fun inner state reached =>
        reached.nodeFrom _ rfl
    refine reached.move moves_awaits fun awaits state reached => ?_
    split
    · refine reached.move moves_awaitOperator fun _ state reached => ?_
      exact reached.read (inOrder .unary) fun inner state reached => reached.nodeFrom _ rfl
    · exact reached.last (yieldsNode_updated inOrder) fun _ => rfl
  · exact yieldsNode_updated inOrder initial reached.sound

omit inOrder in
theorem Reached.joined
    {origin : Origin} {first : Nat}
    {left right : Node}
    {state : State}
    (reached : Reached origin first [left, right] state)
    (operator : Token) : Reached origin first [joined operator left right] state := by
  unfold Parse.joined
  split <;> exact reached.node rfl rfl

/-- The operand on the left is followed by what an operator joins to it. -/
theorem leaves_binaryRest
    (limit least : Nat)
    {origin : Origin} {first : Nat}
    {left : Node}
    {state : State}
    (reached : Reached origin first [left] state) :
    Leaves origin first (fun node => [node]) (binaryRest read limit least left) state := by
  induction limit generalizing least first left state with
  | zero => exact reached.forget.last (yields_fail _ _) fun _ => rfl
  | succ limit inductionHypothesis =>
      refine .look rfl (.look rfl ?_)
      split
      · exact .pure reached
      split
      · exact .pure reached
      refine reached.move moves_bump fun _ state reached => ?_
      extract_lets follows rest
      have leaves : Leaves origin first (fun node => [node]) (rest ()) state := by
        refine reached.read (inOrder .unary) fun operand state reached => ?_
        -- What follows the operand is joined to it first, so it is set apart from the left side.
        obtain ⟨middle, atLeft, atOperand⟩ := reached.inOrder.exists_middle
        have apart : Reached origin middle [operand] state :=
          ⟨reached.sound, reached.origin_eq, atOperand⟩
        refine Leaves.bind (.following atLeft (inductionHypothesis _ apart))
          fun right state reached => ?_
        exact inductionHypothesis least (reached.joined _)
      split
      · exact reached.stop (exists_fail_eq _ _)
      · exact leaves

theorem yieldsNode_binary : YieldsNode (binary read) := by
  refine .intro fun initial reached => ?_
  refine reached.read (inOrder .unary) fun operand state reached => ?_
  split
  · exact .pure reached
  · exact .look rfl (leaves_binaryRest inOrder _ _ reached)

theorem yieldsNode_conditional : YieldsNode (conditional read) := by
  refine .intro fun initial reached => .look rfl ?_
  refine reached.read (yieldsNode_binary inOrder) fun test state reached => ?_
  split
  · exact .pure reached
  refine reached.move (moves_passMark "?") fun passed state reached => ?_
  split
  · exact .pure reached
  refine reached.read (yieldsNode_value inOrder) fun onTrue state reached => ?_
  refine reached.move (moves_needMark ":") fun _ state reached => ?_
  exact reached.read (inOrder .assignment) fun onFalse state reached => reached.nodeFrom _ rfl

theorem yieldsNode_yielded (start : Nat) : YieldsNode (yielded read start) := by
  refine .intro fun initial reached => .look rfl ?_
  split
  · exact reached.nodeFrom _ rfl
  refine reached.move (moves_passMark "*") fun passed state reached => ?_
  split
  · exact reached.read (inOrder .assignment) fun inner state reached => reached.nodeFrom _ rfl
  refine .look rfl ?_
  split
  · exact reached.read (inOrder .assignment) fun inner state reached => reached.nodeFrom _ rfl
  · exact reached.nodeFrom _ rfl

theorem yieldsNode_assignment : YieldsNode (assignment read) := by
  refine .intro fun initial reached => .look rfl (.look rfl (.look rfl ?_))
  split
  · exact reached.move moves_bump fun _ state reached =>
      reached.last (yieldsNode_yielded inOrder _) fun _ => rfl
  refine reached.move moves_markArrow fun _ state reached => ?_
  refine reached.read (yieldsNode_conditional inOrder) fun left state reached => ?_
  split
  · exact .pure reached
  refine .look rfl ?_
  split
  · split
    · refine reached.convert fun target converts => ?_
      refine (reached.toTarget converts).move moves_bump fun _ state reached => ?_
      exact reached.read (inOrder .assignment) fun right state reached => reached.nodeFrom _ rfl
    · exact .pure reached
  · exact .pure reached

theorem yieldsNode_expression : YieldsNode (expression read) := by
  refine .intro fun initial reached => .look rfl ?_
  refine reached.read (inOrder .assignment) fun first state reached => .look rfl ?_
  split
  · exact .pure reached
  exact reached.read (yieldsNodes_afterCommas (inOrder .assignment)) fun others state reached =>
    reached.nodeFrom _ rfl

end

end Parse
end Program
end ErrorTemplates
