import ErrorTemplates.Proofs.Extraction.ErrorCalls
import ErrorTemplates.Proofs.Extraction.Following

/-!
# The events of a program

The events of a visit are the calls that make errors and the declarations of the factory:
each takes place once, in the order of the occurrences, and a call is thrown exactly when it
is wrapped in some throw statement. A visit passes the place of a node on to a child, and
here it is shown that no thrown call is missed or made up on the way.
-/

namespace ErrorTemplates
namespace Extraction

open Program

/-! ## Events at occurrences -/

/-- An occurrence as an event, when some of the calls are thrown. -/
def eventAt? (naming : Naming) (thrown : Selection) (occurrence : Occurrence) :
    Option Event :=
  match occurrence.node with
  | .call span callee arguments =>
      (naming.match? callee arguments).map fun found =>
        .makes { address := occurrence.address, call := { span, callee, arguments }, found }
          (thrown occurrence.address)
  | .function _ signature _ _ =>
      if signature.name = naming.factory then
        some (.declares occurrence.address signature.nameSpan)
      else none
  | _ => none

/-- The events of a tree when some of the calls are thrown. -/
def eventsOf (naming : Naming) (thrown : Selection) (node : Node) : List Event :=
  node.occurrences.filterMap (eventAt? naming thrown)

/-- The events of trees, numbered from a start, when some of the calls are thrown. -/
def eventsFrom (naming : Naming) (thrown : Selection) (start : Nat) (nodes : List Node) :
    List Event :=
  (occurrencesFrom start nodes).filterMap (eventAt? naming thrown)

theorem eventAt?_inChild
    (naming : Naming)
    (thrown : Selection)
    (index : Nat)
    (occurrence : Occurrence) :
    eventAt? naming thrown (occurrence.inChild index) =
      (eventAt? naming (thrown.inChild index) occurrence).map (Event.inChild index) := by
  obtain ⟨address, node⟩ := occurrence
  cases node with
  | call span callee arguments =>
      cases recognised : naming.match? callee arguments <;>
        simp [eventAt?, recognised, Event.inChild, ErrorCall.inChild, Selection.inChild]
  | function span signature parameters body =>
      by_cases isFactory : signature.name = naming.factory <;>
        simp [eventAt?, isFactory, Event.inChild]
  | _ => rfl

@[simp] theorem eventsFrom_nil (naming : Naming) (thrown : Selection) (start : Nat) :
    eventsFrom naming thrown start [] = [] := rfl

theorem eventsFrom_cons
    (naming : Naming)
    (thrown : Selection)
    (start : Nat)
    (node : Node)
    (rest : List Node) :
    eventsFrom naming thrown start (node :: rest) =
      (eventsOf naming (thrown.inChild start) node).map (Event.inChild start) ++
        eventsFrom naming thrown (start + 1) rest := by
  have inNode : eventAt? naming thrown ∘ Occurrence.inChild start =
      fun occurrence => (eventAt? naming (thrown.inChild start) occurrence).map
        (Event.inChild start) :=
    funext fun occurrence => eventAt?_inChild naming thrown start occurrence
  rw [eventsFrom, occurrencesFrom, List.filterMap_append, List.filterMap_map, inNode, eventsOf,
    List.map_filterMap, eventsFrom]

/-- The event at the root comes before those in the children. -/
theorem eventsOf_eq (naming : Naming) (thrown : Selection) (node : Node) :
    eventsOf naming thrown node =
      (eventAt? naming thrown { address := [], node }).toList ++
        eventsFrom naming thrown 0 node.children := by
  rw [eventsOf, Node.occurrences_eq, List.filterMap_cons, eventsFrom]
  cases eventAt? naming thrown { address := [], node } <;> rfl

@[simp] theorem eventsOf_parens
    (naming : Naming)
    (thrown : Selection)
    (span : Span)
    (inner : Node) :
    eventsOf naming thrown (.parens span inner) =
      (eventsOf naming (thrown.inChild 0) inner).map (Event.inChild 0) := by
  rw [eventsOf_eq, Node.children, eventsFrom_cons, eventsFrom_nil, List.append_nil]
  rfl

@[simp] theorem eventsOf_throwing
    (naming : Naming)
    (thrown : Selection)
    (span : Span)
    (operand : Node) :
    eventsOf naming thrown (.throwing span operand) =
      (eventsOf naming (thrown.inChild 0) operand).map (Event.inChild 0) := by
  rw [eventsOf_eq, Node.children, eventsFrom_cons, eventsFrom_nil, List.append_nil]
  rfl

/-- The name of the general error, in parentheses or not, has no events. -/
theorem eventsOf_of_isErrorName
    {node : Node}
    (isError : isErrorName node = true)
    (naming : Naming)
    (thrown : Selection) : eventsOf naming thrown node = [] := by
  induction node using Node.induction_on_children generalizing thrown with
  | step node inductionHypothesis =>
      cases node with
      | identifier => rfl
      | parens span inner =>
          rw [eventsOf_parens, inductionHypothesis inner (List.mem_singleton.mpr rfl) isError,
            List.map_nil]
      | _ => simp [isErrorName, Node.bare] at isError

/-! ## A trace is made of the events at the occurrences -/

/-- The way from a node to the call that is thrown because of the place of the node. -/
def Place.thrownAddress? : Place -> Node -> Option Address
  | .plain, _ => none
  | .operand, node => wrappedAddress? node
  | .wrapped, node => some node.bareAddress

@[simp] theorem thrownAddress?_plain (node : Node) : Place.plain.thrownAddress? node = none := rfl

@[simp] theorem thrownAddress?_operand (node : Node) :
    Place.operand.thrownAddress? node = wrappedAddress? node := rfl

@[simp] theorem thrownAddress?_wrapped (node : Node) :
    Place.wrapped.thrownAddress? node = some node.bareAddress := rfl

/-- The calls that are thrown in a node at a place are those that the place makes so and
those that are wrapped in a throw statement of the node. -/
structure Marks (naming : Naming) (place : Place) (thrown : Selection) (node : Node) :
    Prop where
  /-- An operand makes an error from a call. -/
  wraps : place = .operand -> (wrappedCall? node).isSome
  /-- Of other calls than those that make errors nothing is said. -/
  thrown_iff : ∀ address span callee arguments,
    node.subtree? address = some (.call span callee arguments) ->
    (naming.match? callee arguments).isSome ->
    (thrown address = true ↔
      WrappedIn node address ∨ place.thrownAddress? node = some address)

/-- What is thrown in a child of a node, when its place makes the same call thrown as the
node does. -/
theorem Marks.inChild
    {naming : Naming}
    {place childPlace : Place}
    {thrown : Selection}
    {node child : Node}
    {index : Nat}
    (marks : Marks naming place thrown node)
    (found : node.children[index]? = some child)
    (wraps : childPlace = .operand -> (wrappedCall? child).isSome)
    (same : ∀ below span callee arguments,
      child.subtree? below = some (.call span callee arguments) ->
      (naming.match? callee arguments).isSome ->
      ((index = 0 ∧ ∃ span operand, node = .throwing span operand ∧
          wrappedAddress? operand = some below) ∨
        place.thrownAddress? node = some (index :: below) ↔
          childPlace.thrownAddress? child = some below)) :
    Marks naming childPlace (thrown.inChild index) child := by
  refine ⟨wraps, fun below span callee arguments present recognised => ?_⟩
  have presentAbove : node.subtree? (index :: below) = some (.call span callee arguments) := by
    rw [Node.subtree?_cons, subtreeAmong?_eq_some_iff]
    exact ⟨child, found, present⟩
  rw [Selection.inChild, marks.thrown_iff _ _ _ _ presentAbove recognised,
    wrappedIn_cons_iff found, or_assoc, same below span callee arguments present recognised]

/-- Traces that are made of the events of each tree are made of the events of all. -/
theorem traceAll_eq_eventsFrom
    {naming : Naming}
    {place : Place}
    {thrown : Selection}
    {start : Nat}
    {nodes : List Node}
    (traced : ∀ index child, nodes[index]? = some child ->
      trace naming place child = eventsOf naming (thrown.inChild (start + index)) child) :
    traceAll naming place start nodes = eventsFrom naming thrown start nodes := by
  induction nodes generalizing start with
  | nil => rfl
  | cons node rest inductionHypothesis =>
      have nodeTraced := traced 0 node rfl
      have restTraced : traceAll naming place (start + 1) rest =
          eventsFrom naming thrown (start + 1) rest := by
        refine inductionHypothesis fun index child found => ?_
        rw [Nat.add_assoc, Nat.add_comm 1]
        exact traced (index + 1) child found
      rw [traceAll, eventsFrom_cons, restTraced, nodeTraced, Nat.add_zero]

/-- The trace of a node is made of the events at its occurrences. -/
def TracesEvents (naming : Naming) (node : Node) : Prop :=
  ∀ (place : Place) (thrown : Selection), Marks naming place thrown node ->
    trace naming place node = eventsOf naming thrown node

section
variable {naming : Naming} {place : Place} {thrown : Selection} {node : Node}

/-- Outside of an operand, the place of a node without parentheses makes no call below it
thrown. -/
theorem thrownAddress?_ne_cons
    (notOperand : place ≠ .operand)
    (notParens : ∀ span inner, node ≠ .parens span inner)
    (index : Nat)
    (below : Address) : place.thrownAddress? node ≠ some (index :: below) := by
  cases place with
  | plain => simp
  | operand => exact absurd rfl notOperand
  | wrapped => simp [Node.bareAddress_eq_nil notParens]

/-- A node passes its place on to none of its children if it is neither a throw statement
nor in the way to a thrown call. -/
theorem trace_eq_eventsOf_of_plain
    (inner : ∀ child ∈ node.children, TracesEvents naming child)
    (marks : Marks naming place thrown node)
    (notThrowing : ∀ span operand, node ≠ .throwing span operand)
    (notAbove : ∀ index below, place.thrownAddress? node ≠ some (index :: below))
    (traced : trace naming place node =
      (eventAt? naming thrown { address := [], node }).toList ++
        traceAll naming .plain 0 node.children) :
    trace naming place node = eventsOf naming thrown node := by
  have childrenTraced : traceAll naming .plain 0 node.children =
      eventsFrom naming thrown 0 node.children := by
    refine traceAll_eq_eventsFrom fun index child found => ?_
    rw [Nat.zero_add]
    refine inner child (List.mem_of_getElem? found) .plain _ ?_
    refine marks.inChild found (by simp) fun below _ _ _ _ _ => ?_
    simp [notThrowing, notAbove]
  rw [traced, childrenTraced, eventsOf_eq]

/-- A call is thrown at the root of a tree exactly when it is the argument of an error. -/
theorem Marks.toList_callEvent?
    {span : Span}
    {callee : Node}
    {arguments : List Node}
    (marks : Marks naming place thrown (.call span callee arguments))
    (notOperand : place ≠ .operand) :
    (callEvent? naming (place == .wrapped) { span, callee, arguments }).toList =
      (eventAt? naming thrown { address := [], node := .call span callee arguments }).toList := by
  cases recognised : naming.match? callee arguments with
  | none => simp [callEvent?, eventAt?, recognised]
  | some found =>
      have atRoot := marks.thrown_iff [] span callee arguments rfl (by simp [recognised])
      have thrown_eq : thrown [] = (place == .wrapped) := by
        rw [Bool.eq_iff_iff, atRoot]
        cases place with
        | operand => exact absurd rfl notOperand
        | _ => simp [not_wrappedIn_nil, Node.bareAddress]
      simp [callEvent?, eventAt?, recognised, thrown_eq]

/-- The events of an operand that makes an error from a call are those of its argument. -/
theorem trace_eq_eventsOf_of_operand
    (inner : ∀ child ∈ node.children, TracesEvents naming child)
    (marks : Marks naming .operand thrown node)
    (notParens : ∀ span inner, node ≠ .parens span inner) :
    trace naming .operand node = eventsOf naming thrown node := by
  obtain ⟨call, wraps⟩ := Option.isSome_iff_exists.mp (marks.wraps rfl)
  obtain ⟨span, callee, argument, outer, isError, _⟩ := exists_of_wrappedCall?_eq_some wraps
  rw [Node.bare_eq_self notParens] at outer
  have children_eq : node.children = [callee, argument] := by
    rcases outer with rfl | rfl <;> rfl
  have ownNone : eventAt? naming thrown { address := [], node } = none := by
    rcases outer with rfl | rfl
    · cases makes : naming.maker? callee <;> simp [eventAt?, Naming.match?, makes]
    · rfl
  have argumentMarks : Marks naming .wrapped (thrown.inChild 1) argument := by
    refine marks.inChild (by rw [children_eq]; rfl) (by simp) ?_
    intro below _ _ _ _ _
    simp [wrappedAddress?, wraps, Node.bare_eq_self notParens,
      children_eq, Node.bareAddress_eq_nil notParens]
  have argumentTraced := inner argument (by simp [children_eq]) .wrapped _ argumentMarks
  have traced : trace naming .operand node = traceAll naming .wrapped 1 [argument] := by
    rcases outer with rfl | rfl <;> simp [trace]
  rw [traced, eventsOf_eq, ownNone, children_eq, eventsFrom_cons, eventsFrom_cons,
    eventsOf_of_isErrorName isError, traceAll, argumentTraced]
  rfl

/-- A throw statement whose operand makes an error from a call that makes another hides the
latter. -/
theorem hidesError_of_wrappedAddress?
    {operand callee : Node}
    {address : Address}
    {span : Span}
    {arguments : List Node}
    (wraps : wrappedAddress? operand = some address)
    (present : operand.subtree? address = some (.call span callee arguments))
    (recognised : (naming.match? callee arguments).isSome) :
    hidesError naming operand = true := by
  obtain ⟨call, isWrapped⟩ := exists_wrappedCall? wraps
  obtain ⟨_, found, presentThere⟩ := exists_wrappedAddress? isWrapped
  obtain rfl := Option.some.inj (wraps.symm.trans found)
  have same := Option.some.inj (present.symm.trans presentThere)
  simp only [Node.call.injEq] at same
  obtain ⟨_, rfl, rfl⟩ := same
  rw [hidesError, isWrapped, Option.any_some, recognised]

end

/-- The trace of every node is made of the events at its occurrences. -/
theorem tracesEvents (naming : Naming) (node : Node) : TracesEvents naming node := by
  induction node using Node.induction_on_children with
  | step node inductionHypothesis =>
      intro place thrown marks
      have notOperand (wrapsNothing : wrappedCall? node = none) : place ≠ .operand := by
        intro isOperand
        simpa [wrapsNothing] using marks.wraps isOperand
      have plainly := trace_eq_eventsOf_of_plain inductionHypothesis marks
      cases node with
      | parens span inner =>
          have innerMarks : Marks naming place (thrown.inChild 0) inner := by
            refine marks.inChild rfl marks.wraps fun below _ _ _ _ _ => ?_
            cases place <;> simp [wrappedAddress?_parens, Node.bareAddress]
          have innerTraced := inductionHypothesis inner (List.mem_singleton.mpr rfl) place _
            innerMarks
          rw [trace, innerTraced, eventsOf_parens]
      | throwing span operand =>
          have atThrow (index : Nat) (below : Address) :
              place.thrownAddress? (.throwing span operand) ≠ some (index :: below) := by
            refine thrownAddress?_ne_cons (notOperand rfl) ?_ index below
            simp
          have operandMarks :
              Marks naming (if hidesError naming operand then .operand else .plain)
                (thrown.inChild 0) operand := by
            -- A wrapped call that is not recognised makes no event, so a statement that hides
            -- nothing can be visited like any other.
            cases hides : hidesError naming operand with
            | true =>
                refine marks.inChild rfl (fun _ => Option.isSome_of_any hides) ?_
                intro below _ _ _ _ _
                simp [atThrow, and_assoc]
            | false =>
                refine marks.inChild rfl (by simp) ?_
                intro below _ _ _ present recognised
                have wrapsNothing : wrappedAddress? operand ≠ some below := fun wraps => by
                  simp [hidesError_of_wrappedAddress? wraps present recognised] at hides
                simp [atThrow, wrapsNothing, and_assoc]
          have operandTraced := inductionHypothesis operand (List.mem_singleton.mpr rfl) _ _
            operandMarks
          rw [trace, operandTraced, eventsOf_throwing]
      | call span callee arguments =>
          by_cases isOperand : place = .operand
          · subst isOperand
            exact trace_eq_eventsOf_of_operand inductionHypothesis marks (by simp)
          · refine plainly (by simp) (thrownAddress?_ne_cons isOperand (by simp)) ?_
            rw [trace, if_neg isOperand, marks.toList_callEvent? isOperand]
            rfl
      | construct span callee arguments =>
          by_cases isOperand : place = .operand
          · subst isOperand
            exact trace_eq_eventsOf_of_operand inductionHypothesis marks (by simp)
          · refine plainly (by simp) (thrownAddress?_ne_cons isOperand (by simp)) ?_
            rw [trace, if_neg isOperand]
            rfl
      | function span signature parameters body =>
          refine plainly (by simp) (thrownAddress?_ne_cons (notOperand rfl) (by simp)) ?_
          simp [trace, Node.children, traceAll_append, traceAll]
          rfl
      | identifier | string | spread | sum | other =>
          refine plainly (by simp) (thrownAddress?_ne_cons (notOperand rfl) (by simp)) ?_
          simp [trace, Node.children, traceAll, eventAt?]

/-! ## The events of a program -/

/-- The events of a program, in the order of the visit. -/
def events (naming : Naming) (program : Program) : List Event :=
  program.occurrences.filterMap
    (eventAt? naming fun address => decide (Wrapped program address))

/-- The trace of all items is made of the events of the program. -/
theorem traceAll_items (naming : Naming) (program : Program) :
    traceAll naming .plain 0 program.items = events naming program := by
  let thrown : Selection := fun address => decide (Wrapped program address)
  change _ = eventsFrom naming thrown 0 program.items
  refine traceAll_eq_eventsFrom fun index item found => ?_
  rw [Nat.zero_add]
  refine tracesEvents naming item .plain _ ⟨by simp, ?_⟩
  intro address _ _ _ _ _
  simp [Selection.inChild, thrown, wrapped_cons_iff found]

end Extraction
end ErrorTemplates
