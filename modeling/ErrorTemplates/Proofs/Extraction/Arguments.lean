import ErrorTemplates.Extraction.Survey
import ErrorTemplates.Proofs.Extraction.Removal
import Mathlib.Algebra.Ring.Nat

/-!
# The arguments of calls

How many arguments the calls of a program have. A message that is removed is constant and holds
no calls of its own, so each call that loses its message takes exactly one argument away.
-/

namespace ErrorTemplates
namespace Program

/-! ## Nodes and occurrences -/

theorem nodesOfList_append (first second : List Node) :
    Node.nodesOfList (first ++ second) = Node.nodesOfList first ++ Node.nodesOfList second := by
  induction first with
  | nil => rfl
  | cons node rest inductionHypothesis =>
      rw [List.cons_append, Node.nodesOfList, Node.nodesOfList, inductionHypothesis,
        List.append_assoc]

/-- The root of a tree comes first, and then come the nodes in its children. -/
theorem Node.nodes_eq (node : Node) : node.nodes = node :: Node.nodesOfList node.children := by
  cases node with
  | function span signature parameters body =>
      simp [Node.nodes, children, nodesOfList_append, Node.nodesOfList]
  | _ => simp [Node.nodes, children, Node.nodesOfList]

private theorem map_node_occurrencesFrom_of_each
    (start : Nat)
    {nodes : List Node}
    (each : ∀ node ∈ nodes, node.occurrences.map Occurrence.node = node.nodes) :
    (occurrencesFrom start nodes).map Occurrence.node = Node.nodesOfList nodes := by
  induction nodes generalizing start with
  | nil => rfl
  | cons node rest inductionHypothesis =>
      obtain ⟨ofNode, ofRest⟩ := List.forall_mem_cons.mp each
      have sameNodes : Occurrence.node ∘ Occurrence.inChild start = Occurrence.node :=
        funext fun occurrence => Occurrence.node_inChild start occurrence
      rw [occurrencesFrom, List.map_append, List.map_map, sameNodes, ofNode,
        inductionHypothesis _ ofRest, Node.nodesOfList]

/-- The occurrences in a tree are those of its nodes, in the same order. -/
theorem Node.map_node_occurrences (node : Node) :
    node.occurrences.map Occurrence.node = node.nodes := by
  induction node using Node.induction_on_children with
  | step node inductionHypothesis =>
      rw [Node.occurrences_eq, Node.nodes_eq, List.map_cons,
        map_node_occurrencesFrom_of_each 0 inductionHypothesis]

theorem map_node_occurrences (program : Program) :
    program.occurrences.map Occurrence.node = Node.nodesOfList program.items :=
  map_node_occurrencesFrom_of_each 0 fun node _ => node.map_node_occurrences

end Program

namespace Extraction

open Program

/-! ## Counting arguments -/

/-- The number of arguments of all calls of a program. -/
def argumentCount (program : Program) : Nat :=
  ((calls program).map fun call => call.arguments.length).sum

/-- The number of arguments of a node that is a call. -/
def ownArguments : Node -> Nat
  | .call _ _ arguments => arguments.length
  | _ => 0

/-- The number of arguments of all calls in a tree. -/
def argumentsIn (node : Node) : Nat := (node.nodes.map ownArguments).sum

theorem sum_ownArguments_nodesOfList (nodes : List Node) :
    ((Node.nodesOfList nodes).map ownArguments).sum = (nodes.map argumentsIn).sum := by
  induction nodes with
  | nil => rfl
  | cons node rest inductionHypothesis =>
      rw [Node.nodesOfList, List.map_append, List.sum_append, inductionHypothesis, List.map_cons,
        List.sum_cons]
      rfl

theorem argumentsIn_eq (node : Node) :
    argumentsIn node = ownArguments node + (node.children.map argumentsIn).sum := by
  rw [argumentsIn, Node.nodes_eq, List.map_cons, List.sum_cons, sum_ownArguments_nodesOfList]

theorem argumentCount_eq (program : Program) :
    argumentCount program = (program.items.map argumentsIn).sum := by
  rw [← sum_ownArguments_nodesOfList, argumentCount, calls]
  induction Node.nodesOfList program.items with
  | nil => rfl
  | cons node rest inductionHypothesis =>
      rw [List.filterMap_cons, List.map_cons, List.sum_cons, ← inductionHypothesis]
      cases node <;> simp [ownArguments]

/-! ## Removing messages -/

theorem ownArguments_mapChildren (change : Nat -> Node -> Node) (node : Node) :
    ownArguments (node.mapChildren change) = ownArguments node := by
  cases node <;> simp [Node.mapChildren, ownArguments]

/-- There are no calls in a constant expression. -/
theorem argumentsIn_of_constant
    {node : Node}
    {text : String}
    (constant : constant? node = some text) : argumentsIn node = 0 := by
  induction node using Node.induction_on_children generalizing text with
  | step node inductionHypothesis =>
      have ownNone : ownArguments node = 0 := by
        cases node with
        | call => simp at constant
        | _ => rfl
      have childrenNone : ∀ count ∈ node.children.map argumentsIn, count = 0 := by
        intro count isCount
        obtain ⟨child, isChild, rfl⟩ := List.mem_map.mp isCount
        obtain ⟨part, childConstant⟩ := exists_constant?_of_mem_children constant isChild
        exact inductionHypothesis child isChild childConstant
      rw [argumentsIn_eq, ownNone, Nat.zero_add, List.sum_eq_zero_iff_forall_eq_nat]
      exact childrenNone

/-- What is selected in a tree are calls with constant messages. -/
def TakesMessages (selection : Selection) (node : Node) : Prop :=
  ∀ address found, selection address = true -> node.subtree? address = some found ->
    ∃ span callee code message trailing text,
      found = .call span callee (code :: message :: trailing) ∧ constant? message = some text

theorem TakesMessages.inChild
    {selection : Selection}
    {node child : Node}
    {index : Nat}
    (takes : TakesMessages selection node)
    (isChild : node.children[index]? = some child) :
    TakesMessages (selection.inChild index) child := by
  intro address found selected present
  refine takes (index :: address) found selected ?_
  rw [Node.subtree?_cons, subtreeAmong?_eq_some_iff]
  exact ⟨child, isChild, present⟩

/-- In several trees as many arguments are taken away as there are selected calls. -/
theorem sum_argumentsIn_allWithoutMessagesAt
    {selection : Selection}
    {start : Nat}
    {nodes : List Node}
    (each : ∀ index child, nodes[index]? = some child ->
      argumentsIn (withoutMessagesAt (selection.inChild (start + index)) child) +
          child.occurrences.countP (fun inner => selection.inChild (start + index) inner.address) =
        argumentsIn child) :
    ((allWithoutMessagesAt selection start nodes).map argumentsIn).sum +
        (occurrencesFrom start nodes).countP (fun occurrence => selection occurrence.address) =
      (nodes.map argumentsIn).sum := by
  induction nodes generalizing start with
  | nil => rfl
  | cons node rest inductionHypothesis =>
      have ofNode := each 0 node rfl
      have ofRest := @inductionHypothesis (start + 1) fun index child found => by
        rw [Nat.add_assoc, Nat.add_comm 1]
        exact each (index + 1) child found
      rw [allWithoutMessagesAt, occurrencesFrom, List.map_cons, List.sum_cons, List.countP_append,
        List.countP_map, List.map_cons, List.sum_cons, ← ofNode, ← ofRest]
      simp only [Function.comp_def, Occurrence.address_inChild, Selection.inChild, Nat.add_zero]
      omega

/-- A call that loses a message without arguments has one argument less. -/
theorem argumentsIn_withoutOwnMessage
    {message : Node}
    (noneInMessage : argumentsIn message = 0)
    (span : Span)
    (callee code : Node)
    (trailing : List Node) :
    argumentsIn (withoutOwnMessage (.call span callee (code :: message :: trailing))) + 1 =
      argumentsIn (.call span callee (code :: message :: trailing)) := by
  rw [argumentsIn_eq, argumentsIn_eq]
  simp only [withoutOwnMessage, withoutMessage_cons_cons, ownArguments, Node.children,
    List.length_cons, List.map_cons, List.sum_cons, noneInMessage]
  omega

/-- As many arguments are taken away from the calls in a tree as there are selected calls. -/
theorem argumentsIn_withoutMessagesAt
    {selection : Selection}
    {node : Node}
    (takes : TakesMessages selection node) :
    argumentsIn (withoutMessagesAt selection node) +
        node.occurrences.countP (fun occurrence => selection occurrence.address) =
      argumentsIn node := by
  induction node using Node.induction_on_children generalizing selection with
  | step node inductionHypothesis =>
      let changed := node.mapChildren fun index => withoutMessagesAt (selection.inChild index)
      have inChildren : (changed.children.map argumentsIn).sum +
          (occurrencesFrom 0 node.children).countP (fun occurrence =>
            selection occurrence.address) = (node.children.map argumentsIn).sum := by
        have children_eq : changed.children = allWithoutMessagesAt selection 0 node.children := by
          rw [Node.children_mapChildren, allWithoutMessagesAt_eq_mapIdx]
          rfl
        rw [children_eq]
        refine sum_argumentsIn_allWithoutMessagesAt fun index child isChild => ?_
        rw [Nat.zero_add]
        exact inductionHypothesis child (List.mem_of_getElem? isChild) (takes.inChild isChild)
      have unselected : argumentsIn changed + (occurrencesFrom 0 node.children).countP
          (fun occurrence => selection occurrence.address) = argumentsIn node := by
        rw [argumentsIn_eq changed, ownArguments_mapChildren, Nat.add_assoc, inChildren,
          ← argumentsIn_eq]
      rw [withoutMessagesAt_eq, Node.occurrences_eq, List.countP_cons]
      change argumentsIn (if selection [] then withoutOwnMessage changed else changed) + _ = _
      cases selected : selection [] with
      | false => simpa using unselected
      | true =>
          obtain ⟨span, callee, code, message, trailing, text, rfl, constant⟩ :=
            takes [] node selected rfl
          have messageKept := withoutMessagesAt_of_constant (selection.inChild 2) constant
          have lessOne := argumentsIn_withoutOwnMessage (argumentsIn_of_constant constant) span
            (withoutMessagesAt (selection.inChild 0) callee)
            (withoutMessagesAt (selection.inChild 1) code)
            (trailing.mapIdx fun index => withoutMessagesAt (selection.inChild (index + 3)))
          have changed_eq : changed = .call span
              (withoutMessagesAt (selection.inChild 0) callee)
              (withoutMessagesAt (selection.inChild 1) code :: message ::
                trailing.mapIdx fun index =>
                  withoutMessagesAt (selection.inChild (index + 3))) := by
            simp [changed, Node.mapChildren, List.mapIdx_cons, messageKept]
          rw [← changed_eq] at lessOne
          rw [if_pos rfl, if_pos rfl]
          omega

/-- As many arguments are taken away from the calls of a program as there are selected calls. -/
theorem argumentCount_programWithoutMessagesAt
    {selection : Selection}
    {program : Program}
    (takes : ∀ index item, program.items[index]? = some item ->
      TakesMessages (selection.inChild index) item) :
    argumentCount (programWithoutMessagesAt selection program) +
        program.occurrences.countP (fun occurrence => selection occurrence.address) =
      argumentCount program := by
  rw [argumentCount_eq, argumentCount_eq]
  refine sum_argumentsIn_allWithoutMessagesAt fun index item isItem => ?_
  rw [Nat.zero_add]
  exact argumentsIn_withoutMessagesAt (takes index item isItem)

end Extraction
end ErrorTemplates
