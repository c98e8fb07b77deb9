import ErrorTemplates.Program.Parse.Function
import ErrorTemplates.Proofs.Parse.Bindings

/-!
# Functions and classes in text order

A declaration begins before its parameters, which an opening parenthesis separates from its
beginning. The heritage of a class is read before the members and comes after them in the
node.
-/

namespace ErrorTemplates
namespace Program
namespace Parse

theorem moves_functionHeader : Moves functionHeader := by
  refine .intro fun state reached => ?_
  refine reached.move (moves_passWord "async") fun isAsync state reached => ?_
  refine reached.move (moves_needWord "function") fun _ state reached => ?_
  exact reached.move (moves_passMark "*") fun isGenerator state reached => .pure reached

theorem moves_passModifier (name : String) : Moves (passModifier name) :=
  .intro fun _ reached => .look rfl (.look rfl (reached.last (moves_bumpIf _) fun _ => rfl))

theorem moves_followingOnLine : Moves followingOnLine := fun _ sound => .start sound

theorem moves_passAsync : Moves passAsync := by
  refine .intro fun state reached => .look rfl ?_
  exact reached.move moves_followingOnLine fun next state reached =>
    reached.last (moves_bumpIf _) fun _ => rfl

theorem moves_passAccessor (name : String) : Moves (passAccessor name) := by
  refine .intro fun state reached => .look rfl ?_
  refine reached.move moves_followingOnLine fun next state reached => .look rfl ?_
  exact reached.last (moves_bumpIf _) fun _ => rfl

theorem moves_methodKind : Moves methodKind := by
  refine .intro fun state reached => ?_
  refine reached.move (moves_passAccessor "get") fun passed state reached => ?_
  split
  · exact .pure reached
  refine reached.move (moves_passAccessor "set") fun passed state reached => ?_
  split <;> exact .pure reached

theorem keptParameters_sublist (place : MethodPlace) (kind : MethodKind) (parameters : List Node) :
    (keptParameters place kind parameters).Sublist parameters := by
  unfold keptParameters
  split
  · exact List.nil_sublist parameters
  · exact List.take_sublist 2 parameters
  · exact List.Sublist.refl parameters

/-- A declaration begins before what its parenthesis opens. -/
theorem Reached.function
    {origin : Origin}
    {first inside : Nat}
    {parameters : List Node}
    {body : Node}
    {span : Span}
    {signature : Signature}
    {after : State}
    (opened : Reached origin inside (parameters ++ [body]) after)
    (belongs : signature.nameSpan.origin = origin)
    (begins : first ≤ span.start)
    (opens : span.start < inside) :
    Reached origin first [.function span signature parameters body] after := by
  refine ⟨opened.sound, opened.origin_eq, .function belongs begins opens ?_⟩
  rw [List.append_nil]
  exact opened.inOrder

section
variable {read : Readers} (inOrder : InOrder read)
include inOrder

theorem opens_functionRest (header : FunctionHeader) :
    Opens (fun rest => rest.1 ++ [rest.2]) (functionRest read header) := by
  refine ((opens_needMark "(").bind fun _ => .intro fun state reached => ?_).inFunction header
  refine reached.read ((yieldsNode_bindingElement inOrder).separated ")")
    fun parameters state reached => ?_
  exact reached.read (inOrder .block) fun body state reached => .pure reached

theorem yieldsNode_functionExpression : YieldsNode (functionExpression read) := by
  refine .intro fun state reached => .look rfl ?_
  refine reached.move moves_functionHeader fun header state reached => .look rfl ?_
  extract_lets name rest
  have yields : YieldsNode (rest ()) := by
    refine .intro fun state reached => ?_
    refine reached.read (opens_functionRest inOrder header).yields fun parts state reached => ?_
    exact reached.nodeFrom _ rfl
  split
  · exact reached.move moves_bump fun _ state reached => reached.last yields fun _ => rfl
  · exact reached.last yields fun _ => rfl

theorem yieldsNode_functionDeclaration : YieldsNode (functionDeclaration read) := by
  refine .intro fun state reached => .look rfl ?_
  refine reached.move moves_functionHeader fun header named reached => .look rfl (.look rfl ?_)
  split
  · exact reached.last (yields_fail _ _) fun _ => rfl
  refine .look rfl (.look rfl ?_)
  have later : state.start ≤ named.advance.start := reached.advance.first_le_start
  refine reached.advance.readOpened (opens_functionRest inOrder header) fun rest after opened => ?_
  refine .look rfl (.pure ?_)
  exact opened.function reached.origin_eq (Nat.le_refl _) (Nat.lt_succ_of_le later)

theorem leaves_methodRest
    {origin : Origin} {first : Nat}
    {key : Node}
    {state : State}
    (reached : Reached origin first [key] state)
    (start : Nat)
    (place : MethodPlace)
    (kind : MethodKind)
    (header : FunctionHeader) :
    Leaves origin first (fun node => [node]) (methodRest read start place kind header key)
      state := by
  refine reached.read (opens_functionRest inOrder header).yields fun rest state reached => ?_
  have kept := (keptParameters_sublist place kind rest.1).append_right [rest.2]
  exact (reached.sublist (kept.cons_cons key)).nodeFrom _ rfl

theorem yieldsNode_classMember : YieldsNode (classMember read) := by
  refine .intro fun state reached => .look rfl ?_
  refine reached.move (moves_passMark ";") fun passed state reached => ?_
  split
  · exact reached.nodeFrom _ rfl
  refine reached.move (moves_passModifier "static") fun isStatic state reached => .look rfl ?_
  split
  · exact reached.read ((inOrder .block).inFunction _) fun body state reached =>
      reached.nodeFrom _ rfl
  refine reached.move moves_passAsync fun isAsync state reached => ?_
  refine reached.move (moves_passMark "*") fun isGenerator state reached => ?_
  extract_lets header rest
  have yields (kind : MethodKind) : YieldsNode (rest kind) := by
    refine .intro fun state reached => ?_
    refine reached.read (yieldsNode_propertyKey inOrder) fun key state reached => .look rfl ?_
    split
    · exact leaves_methodRest inOrder reached _ _ _ _
    refine reached.move (moves_passMark "=") fun passed state reached => ?_
    split
    · refine reached.readMap ((inOrder .assignment).inFunction _) fun value state reached => ?_
      exact reached.move moves_passEnd fun _ state reached => reached.nodeFrom _ rfl
    refine .look rfl ?_
    split
    · refine .look rfl ?_
      exact reached.move moves_passEnd fun _ state reached => reached.nodeFrom _ rfl
    · exact reached.read (yields_failWith _ _) fun value state reached =>
        reached.move moves_passEnd fun _ state reached => reached.nodeFrom _ rfl
  split
  · exact reached.last (yields _) fun _ => rfl
  · exact reached.move moves_methodKind fun kind state reached =>
      reached.last (yields kind) fun _ => rfl

/-- The heritage is read before the members and is the last child of the class. -/
theorem yieldsNode_classRest
    {shape : Option String -> Bool -> Shape}
    (heritageFirst : ∀ name hasHeritage, (shape name hasHeritage).lastStandsFirst = hasHeritage)
    (needsName : Bool) : YieldsNode (classRest read needsName shape) := by
  refine .intro fun state reached => .look rfl ?_
  refine reached.move (moves_needWord "class") fun _ state reached => .look rfl ?_
  extract_lets name withHeritage rest
  have yieldsMembers : YieldsNodes (many do
      if ← passMark closeBrace then return none
      return some (← classMember read)) := by
    refine yieldsNodes_many (.intro fun state reached => ?_)
    refine reached.move (moves_passMark closeBrace) fun passed state reached => ?_
    split
    · exact .pure reached
    · exact reached.read (yieldsNode_classMember inOrder) fun found state reached => .pure reached
  have yields : YieldsNode (rest ()) := by
    refine .intro fun state reached => ?_
    refine reached.move (moves_passWord "extends") fun passed state reached => ?_
    split
    · refine reached.readMap (inOrder .operand) fun heritage state reached => ?_
      refine reached.move (moves_needMark openBrace) fun _ state reached => ?_
      refine reached.read yieldsMembers fun members state reached => .look rfl (.pure ?_)
      exact reached.turnedNode rfl (heritageFirst _ _) rfl
    · refine .look rfl ?_
      refine reached.move (moves_needMark openBrace) fun _ state reached => ?_
      refine reached.read yieldsMembers fun members state reached => .look rfl (.pure ?_)
      have children_eq : members ++ (none : Option Node).toList = members := List.append_nil members
      rw [children_eq]
      exact reached.node rfl (heritageFirst _ _)
  split
  · exact reached.move moves_bump fun _ state reached => reached.last yields fun _ => rfl
  split
  · exact reached.move (yields_fail _ _) fun _ state reached => reached.last yields fun _ => rfl
  · exact reached.last yields fun _ => rfl

end

end Parse
end Program
end ErrorTemplates
