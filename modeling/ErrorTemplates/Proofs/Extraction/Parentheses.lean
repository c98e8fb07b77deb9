import ErrorTemplates.Proofs.Extraction.Alike
import ErrorTemplates.Proofs.Extraction.Following

/-!
# Parentheses in throw statements

A throw statement whose operand makes a general error may have other parentheses around the
operand, around the name of the error and around its argument. A visit finds the same calls in it
and leaves it as it leaves the statement before, with the same other parentheses.
-/

namespace ErrorTemplates
namespace Extraction

open Program

/-! ## Other parentheses -/

/-- A node in parentheses, of which the first ones are the outermost. -/
def enclosed (spans : List Span) (node : Node) : Node := spans.foldr Node.parens node

/-- The parentheses around a node. -/
def parensOf : Node -> List Span
  | .parens span inner => span :: parensOf inner
  | _ => []

theorem enclosed_parensOf (node : Node) : enclosed (parensOf node) node.bare = node := by
  fun_induction parensOf node with
  | case1 span inner innerHypothesis => exact congrArg (Node.parens span) innerHypothesis
  | case2 node notParens => exact Node.bare_eq_self notParens

@[simp] theorem bare_enclosed (spans : List Span) (node : Node) :
    (enclosed spans node).bare = node.bare := by
  induction spans with
  | nil => rfl
  | cons span rest inductionHypothesis => exact inductionHypothesis

@[simp] theorem bare_bare (node : Node) : node.bare.bare = node.bare := by
  fun_induction Node.bare node with
  | case1 span inner innerHypothesis => exact innerHypothesis
  | case2 node notParens => exact Node.bare_eq_self notParens

theorem bare_ne_parens (node : Node) (span : Span) (inner : Node) :
    node.bare ≠ .parens span inner := by
  fun_induction Node.bare node with
  | case1 _ _ innerHypothesis => exact innerHypothesis
  | case2 node notParens => exact notParens span inner

/-- What is in no parentheses is in none without its messages. -/
theorem bare_withoutMessagesAt (selection : Selection) (node : Node) :
    (withoutMessagesAt selection node.bare).bare = withoutMessagesAt selection node.bare := by
  have notParens := bare_ne_parens node
  cases isBare : node.bare with
  | parens span inner => exact absurd isBare (notParens span inner)
  | _ => rfl

/-- The operand makes a general error of one argument that is not spread, apart from parentheses
around it. -/
def MakesGeneral (operand : Node) : Prop :=
  ∃ span callee argument,
    (operand.bare = .call span callee [argument] ∨
      operand.bare = .construct span callee [argument]) ∧
    isErrorName callee = true ∧ argument.isSpread = false

/-- The parentheses in a throw statement whose operand makes a general error. -/
structure Parens where
  /-- The parentheses around the operand. -/
  operand : List Span
  /-- The parentheses around the name of the error. -/
  callee : List Span
  /-- The parentheses around the argument. -/
  argument : List Span

/-- An operand with these parentheses and with no others, if it has a callee and one argument. -/
def Parens.around (parens : Parens) (operand : Node) : Node :=
  match operand.bare with
  | .call span callee [argument] =>
      enclosed parens.operand (.call span (enclosed parens.callee callee.bare)
        [enclosed parens.argument argument.bare])
  | .construct span callee [argument] =>
      enclosed parens.operand (.construct span (enclosed parens.callee callee.bare)
        [enclosed parens.argument argument.bare])
  | _ => operand

mutual

/-- A tree in which the throw statements with some spans have other parentheses. -/
def reparenthesized (parens? : Span -> Option Parens) : Node -> Node
  | .identifier span name => .identifier span name
  | .string span raw value => .string span raw value
  | .sum span left right =>
      .sum span (reparenthesized parens? left) (reparenthesized parens? right)
  | .parens span inner => .parens span (reparenthesized parens? inner)
  | .spread span inner => .spread span (reparenthesized parens? inner)
  | .call span callee arguments =>
      .call span (reparenthesized parens? callee) (allReparenthesized parens? arguments)
  | .construct span callee arguments =>
      .construct span (reparenthesized parens? callee) (allReparenthesized parens? arguments)
  | .throwing span operand =>
      .throwing span
        (match parens? span with
        | some parens => parens.around (reparenthesized parens? operand)
        | none => reparenthesized parens? operand)
  | .function span signature parameters body =>
      .function span signature (allReparenthesized parens? parameters)
        (reparenthesized parens? body)
  | .other span shape children => .other span shape (allReparenthesized parens? children)

/-- Trees in which the throw statements with some spans have other parentheses. -/
def allReparenthesized (parens? : Span -> Option Parens) : List Node -> List Node
  | [] => []
  | node :: rest => reparenthesized parens? node :: allReparenthesized parens? rest

end

/-- A program in which the throw statements with some spans have other parentheses. -/
def programReparenthesized (parens? : Span -> Option Parens) (program : Program) : Program :=
  { program with items := allReparenthesized parens? program.items }

/-! ## Visiting parentheses -/

section
variable {naming : Naming} {sources : Sources} {place : Place}

theorem map_unlessStopped (change : Node -> Node) (node : Node) (inside : Visit Node) :
    change <$> unlessStopped node inside = unlessStopped (change node) (change <$> inside) := by
  simp only [unlessStopped, map_bind]
  refine congrArg _ (funext fun progress => ?_)
  split <;> simp

theorem visit_enclosed (spans : List Span) (node : Node) :
    visit naming sources place (enclosed spans node) =
      enclosed spans <$> visit naming sources place node := by
  induction spans with
  | nil => exact (id_map _).symm
  | cons span rest inductionHypothesis =>
      change visit naming sources place (.parens span (enclosed rest node)) = _
      rw [visit, inductionHypothesis, bind_pure_comp, Functor.map_map]
      rfl

/-- The name of the general error is visited without a trace. -/
theorem visit_of_isErrorName {callee : Node} (isError : isErrorName callee = true) :
    visit naming sources place callee = pure callee := by
  rw [isErrorName] at isError
  split at isError
  · next span name isBare =>
      rw [← enclosed_parensOf callee, isBare, visit_enclosed]
      simp [visit]
  · simp at isError

/-- A visit puts no parentheses around what is in none. -/
theorem map_bare_visit (node : Node) :
    Node.bare <$> visit naming sources place node.bare = visit naming sources place node.bare := by
  refine StateT.ext fun progress => ?_
  have visited := follows naming sources place node.bare progress
  rw [StateT.run_map, visited]
  exact Prod.ext (bare_withoutMessagesAt _ node) rfl

theorem visitAll_singleton (place : Place) (spans : List Span) (argument : Node) :
    visitAll naming sources place [enclosed spans argument] =
      (fun argument => [enclosed spans argument]) <$> visit naming sources place argument := by
  simp [visitAll, visit_enclosed]

/-- A call with one argument makes no error that is recorded. -/
theorem modifyGet_examine_singleton (isThrown : Bool) (span : Span) (callee argument : Node) :
    (modifyGet (examine naming sources isThrown { span, callee, arguments := [argument] }) :
      Visit Bool) = pure false := by
  have noMatch : naming.match? callee [argument] = none := by
    unfold Naming.match?
    cases naming.maker? callee <;> rfl
  refine StateT.ext fun progress => ?_
  change examine naming sources isThrown { span, callee, arguments := [argument] } progress = _
  rw [examine, noMatch]
  rfl

/-- Only the argument of a call of the general error is looked into. -/
theorem visit_general_call
    {callee : Node}
    (isError : isErrorName callee = true)
    (span : Span)
    (spans : List Span)
    (argument : Node) :
    visit naming sources place (.call span callee [enclosed spans argument]) =
      unlessStopped (.call span callee [enclosed spans argument])
        ((fun argument => .call span callee [enclosed spans argument]) <$>
          visit naming sources (if place = .operand then .wrapped else .plain) argument) := by
  rw [visit]
  by_cases isOperand : place = .operand
  · simp [isOperand, visitAll_singleton]
  · simp [isOperand, modifyGet_examine_singleton, visit_of_isErrorName isError,
      visitAll_singleton]

theorem visit_general_construct
    {callee : Node}
    (isError : isErrorName callee = true)
    (span : Span)
    (spans : List Span)
    (argument : Node) :
    visit naming sources place (.construct span callee [enclosed spans argument]) =
      (fun argument => .construct span callee [enclosed spans argument]) <$>
        visit naming sources (if place = .operand then .wrapped else .plain) argument := by
  rw [visit]
  by_cases isOperand : place = .operand
  · simp [isOperand, visitAll_singleton]
  · simp [isOperand, visit_of_isErrorName isError, visitAll_singleton]

theorem isErrorName_enclosed (spans : List Span) (callee : Node) :
    isErrorName (enclosed spans callee.bare) = isErrorName callee := by
  rw [isErrorName, bare_enclosed, bare_bare, isErrorName]

/-- A visit leaves the same parentheses, whatever they are. -/
theorem visit_around
    (parens : Parens)
    {operand : Node}
    (general : MakesGeneral operand) :
    visit naming sources place (parens.around operand) =
      parens.around <$> visit naming sources place operand := by
  obtain ⟨span, callee, argument, isBare, isError, _⟩ := general
  have isErrorToo := (isErrorName_enclosed parens.callee callee).trans isError
  have argument_eq := enclosed_parensOf argument
  have operand_eq := enclosed_parensOf operand
  rcases isBare with isBare | isBare
  · rw [isBare, ← argument_eq] at operand_eq
    rw [Parens.around, isBare]
    dsimp only
    rw [visit_enclosed, visit_general_call isErrorToo, ← operand_eq, visit_enclosed,
      visit_general_call isError, map_unlessStopped, map_unlessStopped, map_unlessStopped,
      ← map_bare_visit argument]
    simp [Parens.around, Node.bare]
  · rw [isBare, ← argument_eq] at operand_eq
    rw [Parens.around, isBare]
    dsimp only
    rw [visit_enclosed, visit_general_construct isErrorToo, ← operand_eq, visit_enclosed,
      visit_general_construct isError, ← map_bare_visit argument]
    simp [Parens.around, Node.bare]

end

/-! ## What a visit notices -/

section
variable {parens? : Span -> Option Parens}

theorem allReparenthesized_eq_map (nodes : List Node) :
    allReparenthesized parens? nodes = nodes.map (reparenthesized parens?) := by
  induction nodes with
  | nil => rfl
  | cons node rest inductionHypothesis =>
      rw [allReparenthesized, inductionHypothesis, List.map_cons]

@[simp] theorem span_reparenthesized (node : Node) :
    (reparenthesized parens? node).span = node.span := by
  cases node <;> rfl

@[simp] theorem isSpread_reparenthesized (node : Node) :
    (reparenthesized parens? node).isSpread = node.isSpread := by
  cases node <;> rfl

@[simp] theorem constant?_reparenthesized (node : Node) :
    constant? (reparenthesized parens? node) = constant? node := by
  induction node using Node.induction_on_children with
  | step node inductionHypothesis =>
      cases node with
      | sum span left right =>
          have left_eq := inductionHypothesis left (by simp [Node.children])
          have right_eq := inductionHypothesis right (by simp [Node.children])
          rw [reparenthesized, constant?, constant?, left_eq, right_eq]
      | parens span inner => exact inductionHypothesis inner (by simp [Node.children])
      | _ => rfl

theorem bare_reparenthesized (node : Node) :
    (reparenthesized parens? node).bare = reparenthesized parens? node.bare := by
  fun_induction Node.bare node with
  | case1 span inner innerHypothesis => exact innerHypothesis
  | case2 node notParens =>
      cases node with
      | parens span inner => exact absurd rfl (notParens span inner)
      | _ => rfl

@[simp] theorem isErrorName_reparenthesized (node : Node) :
    isErrorName (reparenthesized parens? node) = isErrorName node := by
  rw [isErrorName, isErrorName, bare_reparenthesized]
  cases node.bare <;> rfl

variable {naming : Naming}

@[simp] theorem isFactory_reparenthesized (node : Node) :
    naming.isFactory (reparenthesized parens? node) = naming.isFactory node := by
  cases node <;> rfl

@[simp] theorem maker?_reparenthesized (callee : Node) :
    naming.maker? (reparenthesized parens? callee) = naming.maker? callee := by
  cases callee with
  | call span callee arguments =>
      rcases arguments with _ | ⟨argument, _ | ⟨second, rest⟩⟩ <;>
        simp [reparenthesized, allReparenthesized, Naming.maker?]
  | _ => rfl

/-- A call is examined without a look at the throw statements in it. -/
theorem examine_reparenthesized
    (parens? : Span -> Option Parens)
    (naming : Naming)
    (sources : Sources)
    (isThrown : Bool)
    (call : Call) :
    examine naming sources isThrown
        { span := call.span
          callee := reparenthesized parens? call.callee
          arguments := allReparenthesized parens? call.arguments } =
      examine naming sources isThrown call := by
  obtain ⟨span, callee, arguments⟩ := call
  funext progress
  unfold examine Naming.match?
  rw [maker?_reparenthesized]
  cases naming.maker? callee with
  | none => rfl
  | some maker =>
      rcases arguments with _ | ⟨code, _ | ⟨message, trailing⟩⟩
      · rfl
      · rfl
      · simp only [allReparenthesized, isSpread_reparenthesized]
        cases code.isSpread || message.isSpread with
        | true => rfl
        | false => simp [judge]

@[simp] theorem makesError_reparenthesized (node : Node) :
    makesError naming (reparenthesized parens? node) = makesError naming node := by
  rw [makesError, makesError, bare_reparenthesized]
  cases node.bare with
  | call span callee arguments =>
      rcases arguments with _ | ⟨code, _ | ⟨message, trailing⟩⟩ <;>
        cases makes : naming.maker? callee <;>
        simp [reparenthesized, allReparenthesized, Naming.match?, makes]
      split <;> rfl
  | _ => rfl

theorem hidesError_reparenthesized (operand : Node) :
    hidesError naming (reparenthesized parens? operand) = hidesError naming operand := by
  rw [hidesError_eq, hidesError_eq, bare_reparenthesized]
  cases operand.bare with
  | call span callee arguments | construct span callee arguments =>
      rcases arguments with _ | ⟨argument, _ | ⟨second, rest⟩⟩ <;>
        simp [reparenthesized, allReparenthesized]
  | _ => rfl

theorem makesError_enclosed (spans : List Span) (argument : Node) :
    makesError naming (enclosed spans argument.bare) = makesError naming argument := by
  rw [makesError, bare_enclosed, bare_bare, makesError]

/-- Parentheses do not change whether a throw statement hides an error. -/
theorem hidesError_around (parens : Parens) {operand : Node} (general : MakesGeneral operand) :
    hidesError naming (parens.around operand) = hidesError naming operand := by
  obtain ⟨span, callee, argument, isBare, _, _⟩ := general
  rcases isBare with isBare | isBare <;>
    rw [hidesError_eq, hidesError_eq, Parens.around, isBare] <;>
    simp [Node.bare, isErrorName_enclosed, makesError_enclosed]

theorem MakesGeneral.reparenthesized {operand : Node} (general : MakesGeneral operand) :
    MakesGeneral (reparenthesized parens? operand) := by
  obtain ⟨span, callee, argument, isBare, isError, notSpread⟩ := general
  refine ⟨span, Extraction.reparenthesized parens? callee,
    Extraction.reparenthesized parens? argument, ?_, by simpa using isError,
    by simpa using notSpread⟩
  rw [bare_reparenthesized]
  refine isBare.imp ?_ ?_
  all_goals
    intro isBare
    rw [isBare]
    rfl

end

/-! ## Visits -/

/-- The throw statements that are given other parentheses make general errors. They are found at
the addresses of a tree or a program. -/
def Fits (parens? : Span -> Option Parens) (subtree? : Address -> Option Node) : Prop :=
  ∀ address span operand, subtree? address = some (.throwing span operand) ->
    parens? span ≠ none -> MakesGeneral operand

section
variable {parens? : Span -> Option Parens} {naming : Naming} {sources : Sources} {place : Place}

theorem Fits.child
    {node child : Node}
    (fits : Fits parens? node.subtree?)
    (present : child ∈ node.children) : Fits parens? child.subtree? := by
  obtain ⟨index, found⟩ := List.mem_iff_getElem?.mp present
  intro address span operand isThrow
  refine fits (index :: address) span operand ?_
  rw [Node.subtree?_cons, subtreeAmong?_eq_some_iff]
  exact ⟨child, found, isThrow⟩

theorem Fits.item
    {program : Program}
    {item : Node}
    (fits : Fits parens? program.subtree?)
    (present : item ∈ program.items) : Fits parens? item.subtree? := by
  obtain ⟨index, found⟩ := List.mem_iff_getElem?.mp present
  intro address span operand isThrow
  exact fits (index :: address) span operand
    ((subtreeAmong?_eq_some_iff _ _ _ _).mpr ⟨item, found, isThrow⟩)

/-- The visit of a tree with other parentheses leaves what the visit of the tree leaves, with
the other parentheses. -/
abbrev VisitedAlike
    (parens? : Span -> Option Parens)
    (naming : Naming)
    (sources : Sources)
    (place : Place)
    (node : Node) : Prop :=
  visit naming sources place (reparenthesized parens? node) =
    reparenthesized parens? <$> visit naming sources place node

theorem visitAll_reparenthesized
    {nodes : List Node}
    (alike : ∀ node ∈ nodes, VisitedAlike parens? naming sources place node) :
    visitAll naming sources place (allReparenthesized parens? nodes) =
      allReparenthesized parens? <$> visitAll naming sources place nodes := by
  induction nodes with
  | nil => simp [visitAll, allReparenthesized]
  | cons node rest inductionHypothesis =>
      obtain ⟨nodeAlike, restAlike⟩ := List.forall_mem_cons.mp alike
      rw [allReparenthesized, visitAll, visitAll, nodeAlike, inductionHypothesis restAlike]
      simp [allReparenthesized]

theorem visitKept_reparenthesized
    {nodes : List Node}
    (alike : ∀ node ∈ nodes, VisitedAlike parens? naming sources .plain node) :
    visitKept naming sources (allReparenthesized parens? nodes) =
      allReparenthesized parens? <$> visitKept naming sources nodes := by
  rcases nodes with _ | ⟨code, _ | ⟨message, trailing⟩⟩
  · simp [visitKept, allReparenthesized]
  · have codeAlike := alike code List.mem_cons_self
    simp [allReparenthesized, visitKept, codeAlike]
  · have codeAlike := alike code List.mem_cons_self
    have trailingAlike := visitAll_reparenthesized fun node (present : node ∈ trailing) =>
      alike node (List.mem_cons_of_mem _ (List.mem_cons_of_mem _ present))
    simp [allReparenthesized, visitKept, codeAlike, trailingAlike]

theorem visit_reparenthesized_call
    {callee : Node}
    {arguments : List Node}
    (alike : ∀ child ∈ callee :: arguments, ∀ place,
      VisitedAlike parens? naming sources place child)
    (span : Span) :
    VisitedAlike parens? naming sources place (.call span callee arguments) := by
  obtain ⟨calleeAlike, argumentsAlike⟩ := List.forall_mem_cons.mp alike
  have arguments_eq (place : Place) := visitAll_reparenthesized
    fun child (present : child ∈ arguments) => argumentsAlike child present place
  rw [VisitedAlike, reparenthesized, visit, visit, map_unlessStopped, reparenthesized]
  refine congrArg _ ?_
  by_cases isOperand : place = .operand
  · simp [isOperand, arguments_eq, reparenthesized]
  · have examined := examine_reparenthesized parens? naming sources (place == .wrapped)
      { span, callee, arguments }
    have kept_eq := visitKept_reparenthesized
      fun child (present : child ∈ arguments) => argumentsAlike child present .plain
    simp only [isOperand, if_false, examined, map_bind]
    refine bind_congr fun losesMessage => ?_
    cases losesMessage <;> simp [calleeAlike, arguments_eq, kept_eq, reparenthesized]

theorem visit_reparenthesized_throwing
    {operand : Node}
    (alike : ∀ place, VisitedAlike parens? naming sources place operand)
    {span : Span}
    (general : parens? span ≠ none -> MakesGeneral operand) :
    VisitedAlike parens? naming sources place (.throwing span operand) := by
  rw [VisitedAlike, reparenthesized, visit, visit, map_unlessStopped, reparenthesized]
  cases given : parens? span with
  | none => simp [hidesError_reparenthesized, alike, reparenthesized, given]
  | some parens =>
      have isGeneral : MakesGeneral (reparenthesized parens? operand) :=
        (general (by simp [given])).reparenthesized
      simp [hidesError_around parens isGeneral, hidesError_reparenthesized,
        visit_around parens isGeneral, alike, reparenthesized, given]

/-- A visit of a tree in which throw statements have other parentheses makes the same progress
and leaves the same tree, in which they have the same other parentheses. -/
theorem visit_reparenthesized
    {node : Node}
    (fits : Fits parens? node.subtree?)
    (naming : Naming)
    (sources : Sources)
    (place : Place) : VisitedAlike parens? naming sources place node := by
  induction node using Node.induction_on_children generalizing place with
  | step node inductionHypothesis =>
      have alike (child : Node) (present : child ∈ node.children) (place : Place) :
          VisitedAlike parens? naming sources place child :=
        inductionHypothesis child present (fits.child present) place
      cases node with
      | identifier | string => simp [VisitedAlike, visit, reparenthesized]
      | sum span left right =>
          have leftAlike := alike left (by simp [Node.children]) .plain
          have rightAlike := alike right (by simp [Node.children]) .plain
          simp [VisitedAlike, visit, reparenthesized, leftAlike, rightAlike]
      | parens span inner | spread span inner =>
          have innerAlike := alike inner (by simp [Node.children])
          simp [VisitedAlike, visit, reparenthesized, innerAlike]
      | call span callee arguments => exact visit_reparenthesized_call alike span
      | construct span callee arguments =>
          obtain ⟨calleeAlike, argumentsAlike⟩ := List.forall_mem_cons.mp alike
          have arguments_eq (place : Place) := visitAll_reparenthesized
            fun child (present : child ∈ arguments) => argumentsAlike child present place
          rw [VisitedAlike, reparenthesized, visit, visit]
          split <;> simp [calleeAlike, arguments_eq, reparenthesized]
      | throwing span operand =>
          exact visit_reparenthesized_throwing (alike operand (by simp [Node.children]))
            (fits [] span operand rfl)
      | function span signature parameters body =>
          obtain ⟨parametersAlike, bodyAlike⟩ := List.forall_mem_append.mp alike
          have parameters_eq := visitAll_reparenthesized
            fun child (present : child ∈ parameters) => parametersAlike child present .plain
          have body_eq := bodyAlike body (List.mem_singleton.mpr rfl) .plain
          rw [VisitedAlike, reparenthesized, visit, visit, map_unlessStopped]
          split <;> simp [parameters_eq, body_eq, reparenthesized]
      | other span shape children =>
          have children_eq := visitAll_reparenthesized
            fun child (present : child ∈ children) => alike child present .plain
          simp [VisitedAlike, visit, reparenthesized, children_eq]

end

end Extraction
end ErrorTemplates
