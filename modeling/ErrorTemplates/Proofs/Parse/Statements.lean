import ErrorTemplates.Program.Parse.Statement
import ErrorTemplates.Proofs.Parse.Expressions

/-!
# Statements in text order

The parts of a statement are children of its node in the order in which they were read. The
only statement of which this is not true is a `do` loop, whose test is read last and is its
first child.
-/

namespace ErrorTemplates
namespace Program
namespace Parse

theorem moves_passRest (limit : Nat) : Moves (passRest limit) := by
  induction limit with
  | zero => exact fun _ sound => .start sound
  | succ limit inductionHypothesis =>
      refine .intro fun initial reached => ?_
      refine reached.move moves_passEnd fun passed state reached => ?_
      split
      · exact .pure reached
      · exact reached.move moves_bump fun _ state reached =>
          reached.last inductionHypothesis fun _ => rfl

theorem moves_atLoopWord : Moves atLoopWord := fun _ sound => .start sound

theorem moves_declares : Moves declares := by
  refine .intro fun initial reached => .look rfl ?_
  split <;> exact .pure reached

section
variable {read : Readers} (inOrder : InOrder read)
include inOrder

theorem yieldsNode_head : YieldsNode (head read) := by
  refine .intro fun initial reached => ?_
  refine reached.move (moves_needMark "(") fun _ state reached => ?_
  refine reached.read (yieldsNode_wholeExpression inOrder) fun inner state reached => ?_
  exact reached.move (moves_needMark ")") fun _ state reached => .pure reached

theorem yieldsNodes_statements : YieldsNodes (statements read) := by
  refine yieldsNodes_many (.intro fun initial reached => .look rfl (.look rfl ?_))
  split
  · exact .pure reached
  · exact reached.read (inOrder .statement) fun found state reached => .pure reached

theorem yieldsNode_block : YieldsNode (block read) := by
  refine .intro fun initial reached => .look rfl ?_
  refine reached.move (moves_needMark openBrace) fun _ state reached => ?_
  refine reached.read ((yieldsNodes_statements inOrder).withIn true) fun found state reached => ?_
  exact reached.move (moves_passMark closeBrace) fun _ state reached => reached.nodeFrom _ rfl

/-! ## Variables -/

theorem yieldsNode_declarator (kind : String) (inHead : Bool) :
    YieldsNode (declarator read kind inHead) := by
  refine .intro fun initial reached => .look rfl ?_
  refine reached.read (inOrder .binding) fun target state reached => ?_
  refine reached.move (moves_passMark "=") fun passed state reached => ?_
  split
  · exact reached.read (inOrder .assignment) fun value state reached => reached.nodeFrom _ rfl
  refine reached.move moves_atLoopWord fun atWord state reached => ?_
  extract_lets isLeft
  split
  · exact reached.forget.last (yields_failAt _ _ _) fun _ => rfl
  · exact reached.nodeFrom _ rfl

theorem yieldsNode_declarators (kind : String) (inHead : Bool) :
    YieldsNode (declarators read kind inHead) := by
  refine .intro fun initial reached => .look rfl ?_
  refine reached.move moves_bump fun _ state reached => ?_
  refine reached.read (yieldsNode_declarator inOrder kind inHead) fun first state reached => ?_
  exact reached.read (yieldsNodes_afterCommas (yieldsNode_declarator inOrder kind inHead))
    fun others state reached => reached.nodeFrom _ rfl

/-- What is passed over leaves no nodes. -/
theorem yieldsNode_variableStatement (kind : String) :
    YieldsNode (variableStatement read kind) := by
  refine .intro fun initial reached => .look rfl ?_
  refine reached.read (yieldsNode_declarators inOrder kind false) fun declared state reached => ?_
  refine reached.move moves_passEnd fun passed state reached => ?_
  extract_lets rest
  split
  · have skips : Moves (orElse (some <$> read .expression) none) :=
      Yields.orElse ((inOrder .expression).moves.map fun _ => rfl) id
    refine reached.move skips fun _ state reached => .look rfl ?_
    exact reached.move (moves_passRest _) fun _ state reached => reached.nodeFrom _ rfl
  · exact reached.nodeFrom _ rfl

/-! ## Loops -/

theorem leaves_loopOver
    {origin : Origin} {first : Nat}
    {left : Node}
    {state : State}
    (reached : Reached origin first [left] state)
    (start : Nat)
    (isAwait : Bool) :
    Leaves origin first (fun node => [node]) (loopOver read start isAwait left) state := by
  refine reached.move (moves_passWord "of") fun passed state reached => ?_
  split
  · refine reached.read (yieldsNode_value inOrder) fun right state reached => ?_
    refine reached.move (moves_needMark ")") fun _ state reached => ?_
    exact reached.read (inOrder .statement) fun body state reached => reached.nodeFrom _ rfl
  · refine reached.move (moves_needWord "in") fun _ state reached => ?_
    refine reached.read (yieldsNode_wholeExpression inOrder) fun right state reached => ?_
    refine reached.move (moves_needMark ")") fun _ state reached => ?_
    exact reached.read (inOrder .statement) fun body state reached => reached.nodeFrom _ rfl

theorem yields_optionalExpression (mark : String) :
    Yields Option.toList (optionalExpression read mark) := by
  refine .intro fun initial reached => .look rfl ?_
  split
  · exact .pure reached
  · exact reached.read (yieldsNode_wholeExpression inOrder) fun found state reached =>
      .pure reached

theorem leaves_loopRest
    {origin : Origin} {first : Nat}
    {counter : Option Node}
    {state : State}
    (reached : Reached origin first counter.toList state)
    (start : Nat) :
    Leaves origin first (fun node => [node]) (loopRest read start counter) state := by
  refine reached.move (moves_needMark ";") fun _ state reached => ?_
  refine reached.read (yields_optionalExpression inOrder ";") fun test state reached => ?_
  refine reached.move (moves_needMark ";") fun _ state reached => ?_
  refine reached.read (yields_optionalExpression inOrder ")") fun update state reached => ?_
  refine reached.move (moves_needMark ")") fun _ state reached => ?_
  exact reached.read (inOrder .statement) fun body state reached => reached.nodeFrom _ rfl

theorem yieldsNode_loopBeginning : YieldsNode (loopBeginning read) := by
  refine .intro fun initial reached => .look rfl ?_
  split
  · exact .look rfl (reached.move moves_bump fun _ state reached => .look rfl
      (.pure (reached.cons rfl rfl)))
  · exact reached.last ((inOrder .expression).withIn false) fun _ => rfl

theorem yieldsNode_forStatement : YieldsNode (forStatement read) := by
  refine .intro fun initial reached => .look rfl ?_
  refine reached.move moves_bump fun _ state reached => ?_
  refine reached.move (moves_passWord "await") fun isAwait state reached => ?_
  refine reached.move (moves_needMark "(") fun _ state reached => .look rfl ?_
  split
  · have noCounter : Reached initial.origin initial.start (none : Option Node).toList _ := reached
    exact leaves_loopRest inOrder noCounter _
  refine .look rfl ?_
  extract_lets kind rest
  refine .look rfl (.look rfl (.look rfl ?_))
  have yields (isDeclaration : Bool) : YieldsNode (rest isDeclaration) := by
    refine .intro fun initial reached => ?_
    unfold rest
    split
    · refine reached.read ((yieldsNode_declarators inOrder _ _).withIn false)
        fun left state reached => ?_
      refine reached.move moves_atLoopWord fun atWord state reached => ?_
      split
      · exact leaves_loopOver inOrder reached _ _
      · exact leaves_loopRest inOrder reached _
    · refine reached.read (yieldsNode_loopBeginning inOrder) fun left state reached => ?_
      refine reached.move moves_atLoopWord fun atWord state reached => ?_
      split
      · refine reached.convert fun target converts => ?_
        exact leaves_loopOver inOrder (reached.toTarget converts) _ _
      · exact leaves_loopRest inOrder reached _
  split
  · exact .look rfl (reached.last (yields true) fun _ => rfl)
  split
  · exact reached.move moves_declares fun isDeclaration state reached =>
      reached.last (yields isDeclaration) fun _ => rfl
  · exact .look rfl (reached.last (yields false) fun _ => rfl)

/-- The body is read before the test and comes after it in the node. -/
theorem yieldsNode_doStatement : YieldsNode (doStatement read) := by
  refine .intro fun initial reached => .look rfl ?_
  refine reached.move moves_bump fun _ state reached => ?_
  refine reached.read (inOrder .statement) fun body state reached => ?_
  refine reached.move (moves_needWord "while") fun _ state reached => ?_
  refine reached.read (yieldsNode_head inOrder) fun test state reached => ?_
  refine reached.move (moves_passMark ";") fun _ state reached => ?_
  have turned : [test, body] = [test] ++ [body] := rfl
  exact .look rfl (.pure (reached.turnedNode rfl rfl turned))

/-! ## Choices -/

theorem yieldsNode_ifStatement : YieldsNode (ifStatement read) := by
  refine .intro fun initial reached => .look rfl ?_
  refine reached.move moves_bump fun _ state reached => ?_
  refine reached.read (yieldsNode_head inOrder) fun test state reached => ?_
  refine reached.read (inOrder .statement) fun onTrue state reached => ?_
  refine reached.move (moves_passWord "else") fun passed state reached => ?_
  split
  · exact reached.read (inOrder .statement) fun onFalse state reached => reached.nodeFrom _ rfl
  · exact reached.nodeFrom _ rfl

theorem yieldsNode_clause : YieldsNode (clause read) := by
  refine .intro fun initial reached => .look rfl ?_
  refine reached.move (moves_passWord "case") fun passed state reached => ?_
  extract_lets rest
  have leaves (test : Option Node) (state : State)
      (reached : Reached initial.origin initial.start test.toList state) :
      Leaves initial.origin initial.start (fun node => [node]) (rest test) state := by
    refine reached.move (moves_needMark ":") fun _ state reached => ?_
    refine reached.read (yieldsNodes_many (.intro fun state reached => ?_))
      fun body state reached => reached.nodeFrom _ rfl
    refine .look rfl (.look rfl (.look rfl (.look rfl ?_)))
    split
    · exact .pure reached
    · exact reached.read (inOrder .statement) fun found state reached => .pure reached
  split
  · exact reached.readMap (yieldsNode_wholeExpression inOrder) fun test state reached =>
      leaves (some test) state reached
  · refine reached.move (moves_needWord "default") fun _ state reached => ?_
    exact .look rfl (leaves none state reached)

theorem yieldsNode_switchStatement : YieldsNode (switchStatement read) := by
  refine .intro fun initial reached => .look rfl ?_
  refine reached.move moves_bump fun _ state reached => ?_
  refine reached.read (yieldsNode_head inOrder) fun subject state reached => ?_
  refine reached.move (moves_needMark openBrace) fun _ state reached => ?_
  refine reached.read (yieldsNodes_many (.intro fun state reached => .look rfl (.look rfl ?_)))
    fun clauses state reached => ?_
  · split
    · exact reached.read (yieldsNode_clause inOrder) fun found state reached => .pure reached
    · exact .pure reached
  · exact reached.move (moves_needMark closeBrace) fun _ state reached => reached.nodeFrom _ rfl

theorem yieldsNode_tryStatement : YieldsNode (tryStatement read) := by
  refine .intro fun initial reached => .look rfl ?_
  refine reached.move moves_bump fun _ state reached => ?_
  refine reached.read (inOrder .block) fun body state reached => .look rfl ?_
  refine reached.move (moves_passWord "catch") fun passed state reached => ?_
  extract_lets withHandler withParameter
  have leaves (handler : Option Node) (state : State)
      (reached : Reached initial.origin initial.start (body :: handler.toList) state) :
      Leaves initial.origin initial.start (fun node => [node]) (withHandler handler) state := by
    refine reached.move (moves_passWord "finally") fun passed state reached => ?_
    split
    · exact reached.readMap (inOrder .block) fun finalizer state reached => reached.nodeFrom _ rfl
    · refine .look rfl (Reached.nodeFrom ?_ _ rfl)
      exact (List.append_nil (body :: handler.toList)).symm ▸ reached
  have leavesHandler (parameter : Option Node) (state : State)
      (reached : Reached initial.origin initial.start (body :: parameter.toList) state) :
      Leaves initial.origin initial.start (fun node => [node]) (withParameter parameter) state := by
    refine reached.read (inOrder .block) fun handling state reached => .look rfl (.look rfl ?_)
    have atHandler : Reached initial.origin initial.start
        ([body] ++ (parameter.toList ++ [handling])) state :=
      reached
    refine leaves (some _) state ?_
    change Reached initial.origin initial.start ([body] ++ [_]) state
    exact atHandler.lastNode rfl rfl
  split
  · refine reached.move (moves_passMark "(") fun passed state reached => ?_
    split
    · refine reached.read (inOrder .binding) fun target state reached => ?_
      refine reached.move (moves_needMark ")") fun _ state reached => ?_
      exact .look rfl (leavesHandler (some target) state reached)
    · exact .look rfl (leavesHandler none state reached)
  · exact .look rfl (leaves none state reached)

/-! ## Simple statements -/

omit inOrder in
theorem yieldsNode_jumpStatement (word : String) : YieldsNode (jumpStatement word) := by
  refine .intro fun initial reached => .look rfl ?_
  refine reached.move moves_bump fun _ state reached => .look rfl ?_
  extract_lets withLabel
  have yields (label : Option String) : YieldsNode (withLabel label) := by
    refine .intro fun initial reached => ?_
    unfold withLabel
    split
    · refine reached.move moves_bump fun _ state reached => ?_
      exact reached.move moves_needEnd fun _ state reached => reached.nodeFrom _ rfl
    · exact reached.move moves_needEnd fun _ state reached => reached.nodeFrom _ rfl
  split
  · exact .look rfl (reached.last (yields _) fun _ => rfl)
  · exact .look rfl (.look rfl (reached.last (yields _) fun _ => rfl))

theorem yieldsNode_returnStatement : YieldsNode (returnStatement read) := by
  refine .intro fun initial reached => .look rfl ?_
  refine reached.move moves_bump fun _ state reached => ?_
  refine reached.move moves_atEnd fun atEnd state reached => ?_
  extract_lets rest
  have leaves (value : Option Node) (state : State)
      (reached : Reached initial.origin initial.start value.toList state) :
      Leaves initial.origin initial.start (fun node => [node]) (rest value) state :=
    reached.move moves_needEnd fun _ state reached => reached.nodeFrom _ rfl
  split
  · exact .look rfl (leaves none state reached)
  · exact reached.readMap (yieldsNode_wholeExpression inOrder) fun value state reached =>
      leaves (some value) state reached

theorem yieldsNode_throwStatement : YieldsNode (throwStatement read) := by
  refine .intro fun initial reached => .look rfl ?_
  refine reached.move moves_bump fun _ state reached => .look rfl ?_
  extract_lets rest
  split
  · exact reached.stop (exists_fail_eq _ state)
  · refine reached.read (yieldsNode_wholeExpression inOrder) fun operand state reached => ?_
    exact reached.move moves_needEnd fun _ state reached =>
      .look rfl (.pure (reached.node rfl rfl))

theorem yieldsNode_headed
    {shape : Shape}
    (shapeInOrder : shape.lastStandsFirst = false) : YieldsNode (headed read shape) := by
  refine .intro fun initial reached => .look rfl ?_
  refine reached.move moves_bump fun _ state reached => ?_
  refine reached.read (yieldsNode_head inOrder) fun test state reached => ?_
  exact reached.read (inOrder .statement) fun body state reached =>
    reached.nodeFrom _ shapeInOrder

theorem yieldsNode_expressionStatement : YieldsNode (expressionStatement read) := by
  refine .intro fun initial reached => .look rfl ?_
  refine reached.read (yieldsNode_wholeExpression inOrder) fun inner state reached => ?_
  extract_lets rest
  have leaves (state : State) (reached : Reached initial.origin initial.start [inner] state) :
      Leaves initial.origin initial.start (fun node => [node]) (rest ()) state := by
    refine reached.move moves_passEnd fun passed state reached => ?_
    split
    · exact reached.nodeFrom _ rfl
    · exact reached.forget.last (yields_fail _ _) fun _ => rfl
  split
  · refine reached.move (moves_passMark ":") fun passed state reached => ?_
    split
    · exact reached.read (inOrder .statement) fun body state reached =>
        reached.forget_left.nodeFrom _ rfl
    · exact leaves state reached
  · exact leaves state reached

theorem yieldsNode_statement : YieldsNode (statement read) := by
  refine .intro fun initial reached => .look rfl (.look rfl ?_)
  split
  · split
    · exact inOrder .block initial reached.sound
    split
    · exact reached.move moves_bump fun _ state reached => reached.nodeFrom _ rfl
    · exact yieldsNode_expressionStatement inOrder initial reached.sound
  · split
    · exact yieldsNode_variableStatement inOrder _ initial reached.sound
    · exact yieldsNode_variableStatement inOrder _ initial reached.sound
    · refine reached.move moves_declares fun declares state reached => ?_
      split
      · exact reached.last (yieldsNode_variableStatement inOrder _) fun _ => rfl
      · exact reached.last (yieldsNode_expressionStatement inOrder) fun _ => rfl
    · exact yieldsNode_functionDeclaration inOrder initial reached.sound
    · refine reached.move moves_followingOnLine fun next state reached => ?_
      split
      · exact reached.last (yieldsNode_functionDeclaration inOrder) fun _ => rfl
      · exact reached.last (yieldsNode_expressionStatement inOrder) fun _ => rfl
    · exact yieldsNode_classRest inOrder (fun _ _ => rfl) true initial reached.sound
    · exact yieldsNode_ifStatement inOrder initial reached.sound
    · exact yieldsNode_forStatement inOrder initial reached.sound
    · exact yieldsNode_headed inOrder rfl initial reached.sound
    · exact yieldsNode_doStatement inOrder initial reached.sound
    · exact yieldsNode_switchStatement inOrder initial reached.sound
    · exact yieldsNode_tryStatement inOrder initial reached.sound
    · exact yieldsNode_returnStatement inOrder initial reached.sound
    · exact yieldsNode_throwStatement inOrder initial reached.sound
    · exact yieldsNode_jumpStatement _ initial reached.sound
    · exact yieldsNode_jumpStatement _ initial reached.sound
    · refine reached.move moves_bump fun _ state reached => ?_
      exact reached.move moves_needEnd fun _ state reached => reached.nodeFrom _ rfl
    · exact yieldsNode_headed inOrder rfl initial reached.sound
    · exact yieldsNode_expressionStatement inOrder initial reached.sound
  · exact yieldsNode_expressionStatement inOrder initial reached.sound

end

end Parse
end Program
end ErrorTemplates
