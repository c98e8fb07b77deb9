import ErrorTemplates.Program.Parse
import ErrorTemplates.Proofs.Parse.Statements

/-!
# Programs in text order

Imports and exports, and the readers of all goals tied together: whatever text is read, the
calls and function declarations of the program stand in text order.
-/

namespace ErrorTemplates
namespace Program
namespace Parse

/-! ## Names of modules -/

theorem moves_stringText : Moves stringText := by
  refine .intro fun initial reached => .look rfl ?_
  split
  · exact reached.move moves_bump fun _ state reached => .pure reached
  · exact reached.last (yields_failWith _ _) fun _ => rfl

theorem moves_moduleName : Moves moduleName := by
  refine .intro fun initial reached => .look rfl ?_
  split
  · exact reached.move moves_bump fun _ state reached => .pure reached
  · exact reached.move moves_bump fun _ state reached => .pure reached
  · exact reached.last (yields_fail _ _) fun _ => rfl

theorem moves_moduleNames : Moves moduleNames := by
  refine .intro fun initial reached => ?_
  refine reached.move moves_moduleName fun name state reached => ?_
  refine reached.move (moves_passWord "as") fun passed state reached => ?_
  split
  · exact reached.move moves_moduleName fun other state reached => .pure reached
  · exact .pure reached

theorem moves_localName : Moves localName := by
  refine .intro fun initial reached => .look rfl ?_
  split
  · exact reached.move moves_bump fun _ state reached => .pure reached
  · exact reached.last (yields_fail _ _) fun _ => rfl

theorem moves_importedNames : Moves importedNames := by
  refine .intro fun initial reached => ?_
  refine reached.move (moves_passMark openBrace) fun passed state reached => ?_
  split
  · exact reached.last (moves_moduleNames.separated closeBrace) fun _ => rfl
  · exact .pure reached

theorem moves_importedSpace : Moves importedSpace := by
  refine .intro fun initial reached => ?_
  refine reached.move (moves_passMark "*") fun passed state reached => ?_
  split
  · refine reached.move (moves_needWord "as") fun _ state reached => ?_
    exact reached.last (moves_localName.map fun _ => rfl) fun _ => rfl
  · exact .pure reached

/-! ## Items -/

section
variable {read : Readers} (inOrder : InOrder read)
include inOrder

theorem yieldsNodes_attributes : YieldsNodes (Parse.attributes read) := by
  refine .intro fun initial reached => .look rfl (.look rfl ?_)
  extract_lets rest
  have leaves (given : List Node) (state : State)
      (reached : Reached initial.origin initial.start given state) :
      Leaves initial.origin initial.start (fun nodes => nodes) (rest given) state :=
    reached.move moves_needEnd fun _ state reached => .pure reached
  split
  · refine reached.move moves_bump fun _ state reached => ?_
    refine reached.read (inOrder .unary) fun given state reached => .look rfl ?_
    exact leaves [given] state reached
  · exact .look rfl (leaves [] initial reached)

theorem yieldsNode_importItem : YieldsNode (importItem read) := by
  refine .intro fun initial reached => .look rfl ?_
  refine reached.move moves_bump fun _ state reached => ?_
  refine reached.move moves_modify_isModule fun _ state reached => .look rfl ?_
  split
  · refine reached.move moves_bump fun _ state reached => ?_
    exact reached.read (yieldsNodes_attributes inOrder) fun given state reached =>
      reached.nodeFrom _ rfl
  refine .look rfl ?_
  extract_lets standard afterComma rest
  have yieldsComma (goesOn : Bool) : YieldsNode (afterComma goesOn) := by
    unfold afterComma
    extract_lets afterSpace
    have yieldsSpace (space : Option String) : YieldsNode (afterSpace space) := by
      unfold afterSpace
      extract_lets afterNames
      have yieldsNames (names : List String) : YieldsNode (afterNames names) := by
        refine .intro fun initial reached => ?_
        refine reached.move (moves_needWord "from") fun _ state reached => ?_
        refine reached.move moves_stringText fun source state reached => ?_
        exact reached.read (yieldsNodes_attributes inOrder) fun given state reached =>
          reached.nodeFrom _ rfl
      refine .intro fun initial reached => ?_
      split
      · exact reached.move moves_importedNames fun names state reached =>
          reached.last (yieldsNames names) fun _ => rfl
      · exact .look rfl (reached.last (yieldsNames []) fun _ => rfl)
    refine .intro fun initial reached => ?_
    split
    · exact reached.move moves_importedSpace fun space state reached =>
        reached.last (yieldsSpace space) fun _ => rfl
    · exact .look rfl (reached.last (yieldsSpace none) fun _ => rfl)
  have yields : YieldsNode (rest ()) := by
    refine .intro fun initial reached => ?_
    unfold rest
    split
    · exact reached.move (moves_passMark ",") fun goesOn state reached =>
        reached.last (yieldsComma goesOn) fun _ => rfl
    · exact .look rfl (reached.last (yieldsComma true) fun _ => rfl)
  split
  · exact reached.move moves_bump fun _ state reached => reached.last yields fun _ => rfl
  · exact reached.last yields fun _ => rfl

theorem yieldsNode_exportDefault (start : Nat) : YieldsNode (exportDefault read start) := by
  refine .intro fun initial reached => .look rfl ?_
  extract_lets rest
  have yields (isAsyncFunction : Bool) : YieldsNode (rest isAsyncFunction) := by
    refine .intro fun initial reached => .look rfl ?_
    split
    · exact reached.read (yieldsNode_functionExpression inOrder) fun inner state reached =>
        reached.nodeFrom _ rfl
    refine .look rfl ?_
    split
    · exact reached.read (yieldsNode_classRest inOrder (fun _ _ => rfl) false)
        fun inner state reached => reached.nodeFrom _ rfl
    · refine reached.read (yieldsNode_value inOrder) fun inner state reached => ?_
      exact reached.move moves_needEnd fun _ state reached => reached.nodeFrom _ rfl
  split
  · refine reached.move moves_followingOnLine fun next state reached => .look rfl ?_
    exact reached.last (yields _) fun _ => rfl
  · exact .look rfl (reached.last (yields _) fun _ => rfl)

omit inOrder in
theorem moves_atDeclaration : Moves atDeclaration := by
  refine .intro fun initial reached => .look rfl ?_
  split
  · split
    · exact reached.move moves_followingOnLine fun next state reached => .pure reached
    · exact .pure reached
  · exact .pure reached

theorem yieldsNode_exportItem : YieldsNode (exportItem read) := by
  refine .intro fun initial reached => .look rfl ?_
  refine reached.move moves_bump fun _ state reached => ?_
  refine reached.move moves_modify_isModule fun _ state reached => ?_
  refine reached.move (moves_passWord "default") fun passed state reached => ?_
  split
  · exact reached.last (yieldsNode_exportDefault inOrder _) fun _ => rfl
  refine reached.move (moves_passMark "*") fun passed state reached => ?_
  split
  · refine reached.move (moves_passWord "as") fun passed state reached => ?_
    extract_lets rest
    have yields (name : Option String) : YieldsNode (rest name) := by
      refine .intro fun initial reached => ?_
      refine reached.move (moves_needWord "from") fun _ state reached => ?_
      refine reached.move moves_stringText fun source state reached => ?_
      exact reached.read (yieldsNodes_attributes inOrder) fun given state reached =>
        reached.nodeFrom _ rfl
    split
    · exact reached.move (moves_moduleName.map fun _ => rfl) fun name state reached =>
        reached.last (yields name) fun _ => rfl
    · exact .look rfl (reached.last (yields none) fun _ => rfl)
  refine reached.move (moves_passMark openBrace) fun passed state reached => ?_
  split
  · refine reached.move (moves_moduleNames.separated closeBrace) fun names state reached => ?_
    refine reached.move (moves_passWord "from") fun passed state reached => ?_
    split
    · refine reached.move moves_stringText fun source state reached => ?_
      exact reached.read (yieldsNodes_attributes inOrder) fun given state reached =>
        reached.nodeFrom _ rfl
    · exact reached.move moves_passEnd fun _ state reached => reached.nodeFrom _ rfl
  refine reached.move moves_atDeclaration fun declares state reached => ?_
  split
  · exact reached.read (inOrder .statement) fun inner state reached => reached.nodeFrom _ rfl
  · exact reached.last (yields_failWith _ _) fun _ => rfl

theorem yieldsNode_item : YieldsNode (item read) := by
  refine .intro fun initial reached => .look rfl ?_
  split
  · refine .look rfl ?_
    split
    · exact inOrder .statement initial reached.sound
    · exact yieldsNode_importItem inOrder initial reached.sound
  refine .look rfl ?_
  split
  · exact yieldsNode_exportItem inOrder initial reached.sound
  · exact inOrder .statement initial reached.sound

/-- The readers of one level give nodes in text order when those of the level below do. -/
theorem inOrder_step : InOrder (step read)
  | .item => yieldsNode_item inOrder
  | .statement => yieldsNode_statement inOrder
  | .block => yieldsNode_block inOrder
  | .expression => yieldsNode_expression inOrder
  | .assignment => yieldsNode_assignment inOrder
  | .unary => yieldsNode_unary inOrder
  | .operand => yieldsNode_operand inOrder
  | .constructed => yieldsNode_constructed inOrder
  | .binding => yieldsNode_binding inOrder

end

/-- The readers of every level give nodes in text order. -/
theorem inOrder_readers (levels : Nat) : InOrder (readers levels) := by
  induction levels with
  | zero => exact fun goal => yields_fail _ _
  | succ levels inductionHypothesis => exact inOrder_step inductionHypothesis

theorem yieldsNodes_items (levels : Nat) : YieldsNodes (items levels) := by
  refine yieldsNodes_many (.intro fun initial reached => .look rfl ?_)
  split
  · exact .pure reached
  · exact reached.read (inOrder_readers levels .item) fun found state reached => .pure reached

end Parse

/-- The items of a program that was read from a text stand in text order. -/
theorem inTextOrder_of_parse
    {origin : Origin}
    {text : List Char}
    {parsed : Parsed}
    (parses : parse origin text = .ok parsed) :
    ∃ first last, InTextOrder origin first parsed.program.items last := by
  have leaves := Parse.yieldsNodes_items (Parse.levelsFor text.length)
    (Parse.State.initial origin text) (Parse.sound_enter _ _)
  unfold parse at parses
  unfold Parse.Leaves at leaves
  split at parses
  · cases parses
  · next items state ran =>
      rw [ran] at leaves
      cases parses
      exact ⟨_, _, leaves.inOrder⟩

end Program
end ErrorTemplates
