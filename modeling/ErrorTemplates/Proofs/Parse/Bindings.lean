import ErrorTemplates.Program.Parse.Binding
import ErrorTemplates.Program.Parse.Pattern
import ErrorTemplates.Proofs.Parse.Primitives

/-!
# Bindings and patterns in text order

The readers of one level are assumed to give nodes in text order, and what is read with them
is in text order, too. An expression that becomes a pattern keeps its nodes where they are.
-/

namespace ErrorTemplates
namespace Program
namespace Parse

theorem Reached.nodeFrom
    {origin : Origin} {first : Nat}
    {nodes : List Node}
    {state : State}
    {shape : Shape}
    (reached : Reached origin first nodes state)
    (start : Nat)
    (inOrder : shape.lastStandsFirst = false) :
    Leaves origin first (fun node => [node]) (nodeFrom start shape nodes) state :=
  .look rfl (.pure (reached.node rfl inOrder))

/-! ## Patterns -/

theorem exists_of_map_eq_ok
    {change : α -> β}
    {outcome : Except ε α}
    {changed : β}
    (succeeds : change <$> outcome = .ok changed) :
    ∃ result, outcome = .ok result ∧ change result = changed := by
  cases outcome with
  | error => cases succeeds
  | ok result => exact ⟨result, rfl, Except.ok.inj succeeds⟩

theorem exists_of_toPatterns_cons
    {node : Node}
    {rest patterns : List Node}
    (convert : Node.toPatterns (node :: rest) = .ok patterns) :
    ∃ pattern others, node.toPattern = .ok pattern ∧ Node.toPatterns rest = .ok others ∧
      patterns = pattern :: others := by
  rw [Node.toPatterns] at convert
  cases first : node.toPattern with
  | error =>
      rw [first] at convert
      cases convert
  | ok pattern =>
      cases later : Node.toPatterns rest with
      | error =>
          rw [first, later] at convert
          cases convert
      | ok others =>
          rw [first, later] at convert
          cases convert
          exact ⟨pattern, others, rfl, rfl, rfl⟩

/-- What is true of the patterns one by one is true of all of them. -/
theorem inTextOrder_of_toPatterns
    {nodes patterns : List Node}
    {origin : Origin} {first last : Nat}
    (each : ∀ node ∈ nodes, ∀ {pattern first last}, node.toPattern = .ok pattern ->
      InTextOrder origin first [node] last -> InTextOrder origin first [pattern] last)
    (convert : Node.toPatterns nodes = .ok patterns)
    (inOrder : InTextOrder origin first nodes last) : InTextOrder origin first patterns last := by
  induction nodes generalizing patterns first with
  | nil =>
      cases convert
      exact inOrder
  | cons node rest inductionHypothesis =>
      obtain ⟨eachNode, eachRest⟩ := List.forall_mem_cons.mp each
      obtain ⟨pattern, others, converts, restConvert, rfl⟩ := exists_of_toPatterns_cons convert
      obtain ⟨middle, atNode, inRest⟩ := inOrder.exists_middle_cons
      exact (eachNode converts atNode).append (inductionHypothesis eachRest restConvert inRest)

/-- The pattern that an expression becomes stands where the expression does. -/
theorem inTextOrder_toPattern
    {node pattern : Node}
    {origin : Origin} {first last : Nat}
    (converts : node.toPattern = .ok pattern)
    (inOrder : InTextOrder origin first [node] last) : InTextOrder origin first [pattern] last := by
  induction node using Node.induction_on_children generalizing pattern first last with
  | step node inductionHypothesis =>
      fun_cases Node.toPattern node with
      -- An element that is spread.
      | case2 span inner =>
          rw [Node.toPattern] at converts
          obtain ⟨changed, innerConverts, rfl⟩ := exists_of_map_eq_ok converts
          have inside := inOrder.childrenInText
          exact .singleton (inductionHypothesis inner (List.mem_singleton.mpr rfl) innerConverts
            inside) rfl
      -- An assignment, which becomes a pattern with a default.
      | case11 span children =>
          rw [Node.toPattern] at converts
          cases converts
          exact (InTextOrder.other_iff rfl span).mpr ((InTextOrder.other_iff rfl span).mp inOrder)
      -- An array or an object.
      | case12 span children | case13 span children =>
          rw [Node.toPattern] at converts
          obtain ⟨changed, convert, rfl⟩ := exists_of_map_eq_ok converts
          have below := (InTextOrder.other_iff rfl span).mp inOrder
          exact (InTextOrder.other_iff rfl span).mpr
            (inTextOrder_of_toPatterns inductionHypothesis convert below)
      -- A property, of which only the value is converted.
      | case14 span key value =>
          rw [Node.toPattern] at converts
          obtain ⟨changed, valueConverts, rfl⟩ := exists_of_map_eq_ok converts
          have below := (InTextOrder.other_iff rfl span).mp inOrder
          obtain ⟨middle, atKey, atValue⟩ := below.exists_middle_cons
          refine (InTextOrder.other_iff rfl span).mpr (atKey.append ?_)
          exact inductionHypothesis value (by simp [Node.children]) valueConverts atValue
      | _ => simp_all [Node.toPattern]

theorem inTextOrder_toPatterns
    {nodes patterns : List Node}
    {origin : Origin} {first last : Nat}
    (convert : Node.toPatterns nodes = .ok patterns)
    (inOrder : InTextOrder origin first nodes last) : InTextOrder origin first patterns last :=
  inTextOrder_of_toPatterns (fun _ _ => inTextOrder_toPattern) convert inOrder

theorem inTextOrder_toTarget
    {operator : String}
    {node target : Node}
    {origin : Origin} {first last : Nat}
    (converts : node.toTarget operator = .ok target)
    (inOrder : InTextOrder origin first [node] last) : InTextOrder origin first [target] last := by
  unfold Node.toTarget at converts
  split at converts
  · cases converts
    exact inOrder
  · split at converts
    · exact inTextOrder_toPattern converts inOrder
    · cases converts

/-! ## Bindings -/

/-- The readers of all goals give nodes in text order. -/
abbrev InOrder (read : Readers) : Prop := ∀ goal, YieldsNode (read goal)

section
variable {read : Readers} (inOrder : InOrder read)
include inOrder

theorem yieldsNode_wholeExpression : YieldsNode (wholeExpression read) :=
  (inOrder .expression).withIn true

theorem yieldsNode_value : YieldsNode (withIn true (read .assignment)) :=
  (inOrder .assignment).withIn true

theorem yieldsNode_element : YieldsNode (element read) := by
  refine .intro fun state reached => .look rfl ?_
  refine reached.move (moves_passMark "...") fun passed state reached => ?_
  split
  · refine reached.read (yieldsNode_value inOrder) fun inner state reached => .look rfl (.pure ?_)
    exact reached.node rfl rfl
  · exact reached.last (yieldsNode_value inOrder) fun _ => rfl

theorem opens_arguments : Opens (fun given => given) (arguments read) :=
  (opens_needMark "(").bind fun _ => (yieldsNode_element inOrder).separated ")"

theorem yieldsNode_propertyKey : YieldsNode (propertyKey read) := by
  refine .intro fun state reached => .look rfl (.look rfl ?_)
  split
  · exact reached.move moves_bump fun _ state reached => reached.nodeFrom _ rfl
  · exact reached.move moves_bump fun _ state reached => reached.nodeFrom _ rfl
  · exact reached.move moves_bump fun _ state reached => .look rfl (reached.forget.cons rfl rfl)
  · exact reached.move moves_bump fun _ state reached => reached.nodeFrom _ rfl
  · exact reached.move moves_bump fun _ state reached => reached.nodeFrom _ rfl
  · refine reached.move moves_bump fun _ state reached => ?_
    refine reached.read (yieldsNode_value inOrder) fun inner state reached => ?_
    exact reached.move (moves_needMark "]") fun _ state reached => reached.nodeFrom _ rfl
  · exact yields_failWith _ _ state reached.sound

theorem yieldsNode_defaultedBinding : YieldsNode (defaultedBinding read) := by
  refine .intro fun state reached => .look rfl ?_
  refine reached.read (inOrder .binding) fun target state reached => ?_
  refine reached.move (moves_passMark "=") fun passed state reached => ?_
  split
  · exact reached.read (yieldsNode_value inOrder) fun value state reached =>
      reached.nodeFrom _ rfl
  · exact .pure reached

theorem yieldsNode_bindingElement : YieldsNode (bindingElement read) := by
  refine .intro fun state reached => .look rfl ?_
  refine reached.move (moves_passMark "...") fun passed state reached => ?_
  split
  · exact reached.read (inOrder .binding) fun inner state reached =>
      .look rfl (.pure (reached.node rfl rfl))
  · exact reached.last (yieldsNode_defaultedBinding inOrder) fun _ => rfl

theorem yieldsNode_bindingProperty : YieldsNode (bindingProperty read) := by
  refine .intro fun state reached => .look rfl ?_
  refine reached.move (moves_passMark "...") fun passed state reached => ?_
  split
  · exact reached.read (inOrder .binding) fun inner state reached =>
      .look rfl (.pure (reached.node rfl rfl))
  refine .look rfl ?_
  refine reached.read (yieldsNode_propertyKey inOrder) fun key state reached => ?_
  refine reached.move (moves_passMark ":") fun passed state reached => ?_
  split
  · exact reached.read (yieldsNode_defaultedBinding inOrder) fun value state reached =>
      reached.nodeFrom _ rfl
  split
  · exact reached.forget.last (yields_failWith _ _) fun _ => rfl
  refine .look rfl ?_
  refine reached.move (moves_passMark "=") fun passed state reached => ?_
  split
  · refine reached.forget.read (yieldsNode_value inOrder) fun value state reached => ?_
    exact Reached.nodeFrom (reached.cons rfl rfl) _ rfl
  · exact .pure (reached.forget.cons rfl rfl)

end

theorem yieldsNodes_arrayElements
    {reader : Reader Node}
    (yields : YieldsNode reader) : YieldsNodes (arrayElements reader) := by
  refine yieldsNodes_many (.intro fun state reached => ?_)
  refine reached.move (moves_passMark "]") fun passed state reached => ?_
  split
  · exact .pure reached
  refine .look rfl ?_
  refine reached.move (moves_passMark ",") fun passed state reached => ?_
  split
  · exact (reached.nodeFrom _ rfl).bind fun hole state reached => .pure reached
  refine reached.read yields fun found state reached => .look rfl ?_
  split
  · exact reached.move (moves_needMark ",") fun _ state reached => .pure reached
  · exact .pure reached

theorem yieldsNodes_objectProperties
    {reader : Reader Node}
    (yields : YieldsNode reader) : YieldsNodes (objectProperties reader) := by
  refine yieldsNodes_many (.intro fun state reached => ?_)
  refine reached.move (moves_passMark closeBrace) fun passed state reached => ?_
  split
  · exact .pure reached
  refine reached.read yields fun found state reached => .look rfl ?_
  split
  · exact reached.move (moves_needMark ",") fun _ state reached => .pure reached
  · exact .pure reached

theorem yieldsNode_binding {read : Readers} (inOrder : InOrder read) :
    YieldsNode (binding read) := by
  refine .intro fun state reached => .look rfl (.look rfl ?_)
  split
  · exact reached.move moves_bump fun _ state reached => .look rfl (reached.forget.cons rfl rfl)
  refine reached.move (moves_passMark "[") fun passed state reached => ?_
  split
  · exact reached.read (yieldsNodes_arrayElements (yieldsNode_bindingElement inOrder))
      fun children state reached => reached.nodeFrom _ rfl
  refine reached.move (moves_passMark openBrace) fun passed state reached => ?_
  split
  · exact reached.read (yieldsNodes_objectProperties (yieldsNode_bindingProperty inOrder))
      fun children state reached => reached.nodeFrom _ rfl
  · exact reached.last (yields_failWith _ _) fun _ => rfl

end Parse
end Program
end ErrorTemplates
