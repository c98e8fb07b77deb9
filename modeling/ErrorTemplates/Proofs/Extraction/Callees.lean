import ErrorTemplates.Proofs.Extraction.Shift
import ErrorTemplates.Proofs.Tree.Positions

/-!
# Replacing what is called

The calls at some addresses call something else, and everything else about the tree stays. A
tree whose callees were replaced loses its messages like the tree before: the calls with other
callees are then those that are found at the new addresses.
-/

namespace ErrorTemplates
namespace Extraction

open Program

/-- What is called at some addresses of a tree instead. -/
abbrev Callees := Address -> Option Node

/-- What is called in a child instead. -/
def Callees.inChild (callees : Callees) (index : Nat) : Callees :=
  fun below => callees (index :: below)

mutual

/-- A tree in which the calls at some addresses call something else. -/
def withCallees (callees : Callees) : Node -> Node
  | .identifier span name => .identifier span name
  | .string span raw value => .string span raw value
  | .sum span left right =>
      .sum span (withCallees (callees.inChild 0) left) (withCallees (callees.inChild 1) right)
  | .parens span inner => .parens span (withCallees (callees.inChild 0) inner)
  | .spread span inner => .spread span (withCallees (callees.inChild 0) inner)
  | .call span callee arguments =>
      .call span ((callees []).getD (withCallees (callees.inChild 0) callee))
        (allWithCallees callees 1 arguments)
  | .construct span callee arguments =>
      .construct span (withCallees (callees.inChild 0) callee)
        (allWithCallees callees 1 arguments)
  | .throwing span operand => .throwing span (withCallees (callees.inChild 0) operand)
  | .function span signature parameters body =>
      .function span signature (allWithCallees callees 0 parameters)
        (withCallees (callees.inChild parameters.length) body)
  | .other span shape children => .other span shape (allWithCallees callees 0 children)

/-- Trees, numbered from a start, in which the calls at some addresses call something else. -/
def allWithCallees (callees : Callees) (start : Nat) : List Node -> List Node
  | [] => []
  | node :: rest =>
      withCallees (callees.inChild start) node :: allWithCallees callees (start + 1) rest

end

/-- A program in which the calls at some addresses call something else. -/
def programWithCallees (callees : Callees) (program : Program) : Program :=
  { program with items := allWithCallees callees 0 program.items }

theorem allWithCallees_eq_mapIdx (callees : Callees) (start : Nat) (nodes : List Node) :
    allWithCallees callees start nodes =
      nodes.mapIdx fun index => withCallees (callees.inChild (index + start)) := by
  induction nodes generalizing start with
  | nil => rfl
  | cons node rest inductionHypothesis =>
      simp only [allWithCallees, List.mapIdx_cons, inductionHypothesis, Nat.zero_add,
        Nat.add_right_comm _ 1 start, Nat.add_assoc]

/-- In a node that is no call, only what is called in its children matters. -/
theorem withCallees_eq_mapChildren
    {node : Node}
    (notCall : ∀ span callee arguments, node ≠ .call span callee arguments)
    (callees : Callees) :
    withCallees callees node =
      node.mapChildren fun index => withCallees (callees.inChild index) := by
  cases node with
  | call span callee arguments => exact absurd rfl (notCall span callee arguments)
  | _ => simp [withCallees, Node.mapChildren, allWithCallees_eq_mapIdx]

/-! ## Removing messages -/

/-- The address that a node had before messages were removed. -/
def Selection.origin : Selection -> Address -> Address
  | _, [] => []
  | selection, index :: rest =>
      let before := if selection [] && decide (2 ≤ index) then index + 1 else index
      before :: (selection.inChild before).origin rest

/-- What is called instead where the calls are found after messages were removed. -/
def Callees.after (callees : Callees) (selection : Selection) : Callees :=
  fun address => callees (selection.origin address)

theorem shift?_origin (selection : Selection) (address : Address) :
    selection.shift? (selection.origin address) = some address := by
  induction address generalizing selection with
  | nil => rfl
  | cons index rest inductionHypothesis =>
      rw [Selection.origin]
      cases selected : selection [] with
      | false => simp [Selection.shift?, selected, inductionHypothesis]
      | true =>
          by_cases later : 2 ≤ index
          · have notMessage : index ≠ 1 := by omega
            have after : 2 < index + 1 := by omega
            simp [Selection.shift?, selected, later, notMessage, after, inductionHypothesis]
          · have notMessage : index ≠ 2 := by omega
            have before : ¬ 2 < index := by omega
            simp [Selection.shift?, selected, later, notMessage, before, inductionHypothesis]

theorem origin_of_shift?
    {selection : Selection}
    {address moved : Address}
    (shifted : selection.shift? address = some moved) : selection.origin moved = address := by
  induction address generalizing selection moved with
  | nil =>
      obtain rfl := Option.some.inj shifted
      rfl
  | cons index rest inductionHypothesis =>
      rw [Selection.shift?] at shifted
      split at shifted
      · simp at shifted
      · next kept =>
          obtain ⟨movedBelow, shiftedBelow, rfl⟩ := Option.map_eq_some_iff.mp shifted
          let number := if selection [] && decide (2 < index) then index - 1 else index
          have before_eq :
              (if selection [] && decide (2 ≤ number) then number + 1 else number) = index := by
            cases selected : selection [] with
            | false => simp [number, selected]
            | true =>
                have notMessage : index ≠ 2 := by simpa [selected] using kept
                simp only [number, selected, Bool.true_and, decide_eq_true_eq]
                split <;> split <;> omega
          rw [Selection.origin, before_eq, inductionHypothesis shiftedBelow]

/-- The replaced callees after messages were removed are the ones before, each where its call
is found. -/
theorem Callees.after_eq_some_iff
    (callees : Callees)
    (selection : Selection)
    (moved : Address)
    (callee : Node) :
    callees.after selection moved = some callee ↔
      ∃ address, selection.shift? address = some moved ∧ callees address = some callee := by
  constructor
  · intro replaced
    exact ⟨selection.origin moved, shift?_origin selection moved, replaced⟩
  · rintro ⟨address, shifted, replaced⟩
    rw [after, origin_of_shift? shifted]
    exact replaced

theorem Callees.inChild_after
    {selection : Selection}
    {index : Nat}
    (kept : (selection [] && decide (2 ≤ index)) = false)
    (callees : Callees) :
    (callees.after selection).inChild index =
      (callees.inChild index).after (selection.inChild index) := by
  funext below
  simp [inChild, after, Selection.origin, kept]

theorem Callees.inChild_after_of_later
    {selection : Selection}
    {index : Nat}
    (selected : selection [] = true)
    (later : 2 ≤ index)
    (callees : Callees) :
    (callees.after selection).inChild index =
      (callees.inChild (index + 1)).after (selection.inChild (index + 1)) := by
  funext below
  simp [inChild, after, Selection.origin, selected, later]

/-- The callees have no messages to lose. -/
def Callees.Silent (callees : Callees) : Prop :=
  ∀ address callee, callees address = some callee ->
    ∀ selection, withoutMessagesAt selection callee = callee

/-- In a tree, messages may be removed before or after callees are replaced. -/
def EitherOrder (selection : Selection) (callees : Callees) (node : Node) : Prop :=
  withoutMessagesAt selection (withCallees callees node) =
    withCallees (callees.after selection) (withoutMessagesAt selection node)

/-- In a list, messages may be removed before or after callees are replaced if that is so in
each tree, also when the trees move up. -/
theorem allWithoutMessagesAt_allWithCallees
    {selection : Selection}
    {callees : Callees}
    (start moved : Nat)
    (nodes : List Node)
    (after_eq : ∀ index, (callees.after selection).inChild (index + moved) =
      (callees.inChild (index + start)).after (selection.inChild (index + start)))
    (within : ∀ index child, nodes[index]? = some child ->
      EitherOrder (selection.inChild (index + start)) (callees.inChild (index + start)) child) :
    allWithoutMessagesAt selection start (allWithCallees callees start nodes) =
      allWithCallees (callees.after selection) moved
        (allWithoutMessagesAt selection start nodes) := by
  simp only [allWithCallees_eq_mapIdx, allWithoutMessagesAt_eq_mapIdx, List.mapIdx_mapIdx]
  refine List.mapIdx_eq_mapIdx_iff.mpr fun index inBounds => ?_
  rw [after_eq]
  exact within index nodes[index] (List.getElem?_eq_getElem inBounds)

/-- In a call, messages may be removed before or after callees are replaced if that is so in its
parts. -/
theorem eitherOrder_call
    {selection : Selection}
    {callees : Callees}
    {span : Span}
    {callee : Node}
    {arguments : List Node}
    (silent : callees.Silent)
    (inChild : ∀ index child, (callee :: arguments)[index]? = some child ->
      EitherOrder (selection.inChild index) (callees.inChild index) child) :
    EitherOrder selection callees (.call span callee arguments) := by
  have callee_eq :
      withoutMessagesAt (selection.inChild 0)
          ((callees []).getD (withCallees (callees.inChild 0) callee)) =
        (callees.after selection []).getD
          (withCallees ((callees.after selection).inChild 0)
            (withoutMessagesAt (selection.inChild 0) callee)) := by
    have same : callees.after selection [] = callees [] := rfl
    rw [same]
    cases replaced : callees [] with
    | some other => exact silent [] other replaced _
    | none =>
        rw [Callees.inChild_after (by simp)]
        exact inChild 0 callee rfl
  simp only [EitherOrder, withCallees, withoutMessagesAt, callee_eq]
  congr 1
  cases selected : selection [] with
  | false =>
      exact allWithoutMessagesAt_allWithCallees 1 1 arguments
        (fun index => Callees.inChild_after (by rw [selected, Bool.false_and]) callees)
        fun index child found => inChild (index + 1) child found
  | true =>
      rw [if_pos rfl, if_pos rfl]
      rcases arguments with _ | ⟨code, _ | ⟨message, trailing⟩⟩
      · rfl
      · have code_eq := inChild 1 code rfl
        rw [EitherOrder, ← Callees.inChild_after (by simp)] at code_eq
        simp only [allWithCallees, allWithoutMessagesAt, withoutMessage_singleton, code_eq]
      -- The trailing arguments move up to the place of the message.
      · have code_eq := inChild 1 code rfl
        rw [EitherOrder, ← Callees.inChild_after (by simp)] at code_eq
        have trailing_eq := allWithoutMessagesAt_allWithCallees 3 2 trailing
          (fun index => Callees.inChild_after_of_later selected (by omega) callees)
          fun index child found => inChild (index + 3) child found
        simp only [allWithCallees, allWithoutMessagesAt, withoutMessage_cons_cons, code_eq,
          trailing_eq]

/-- In what is no call and stays as it is, messages may be removed before or after callees are
replaced if that is so in its parts. -/
theorem eitherOrder_of_not_call
    {selection : Selection}
    {callees : Callees}
    {node : Node}
    (notCall : ∀ span callee arguments, node ≠ .call span callee arguments)
    (notSelected : selection [] = false)
    (inChild : ∀ index child, node.children[index]? = some child ->
      EitherOrder (selection.inChild index) (callees.inChild index) child) :
    EitherOrder selection callees node := by
  have unselected (changed : Node) : withoutMessagesAt selection changed =
      changed.mapChildren fun index => withoutMessagesAt (selection.inChild index) := by
    rw [withoutMessagesAt_eq, notSelected]
    rfl
  have stillNoCall : ∀ change span callee arguments,
      node.mapChildren change ≠ .call span callee arguments := by
    intro change span callee arguments
    cases node with
    | call => exact absurd rfl (notCall _ _ _)
    | _ => simp [Node.mapChildren]
  rw [EitherOrder, withCallees_eq_mapChildren notCall, unselected, unselected,
    withCallees_eq_mapChildren (stillNoCall _), Node.mapChildren_mapChildren,
    Node.mapChildren_mapChildren]
  refine node.mapChildren_congr fun index child found => ?_
  rw [Callees.inChild_after (by rw [notSelected, Bool.false_and])]
  exact inChild index child found

/-- Messages may be removed before or after callees are replaced. -/
theorem eitherOrder
    {selection : Selection}
    {callees : Callees}
    {node : Node}
    (onlyCalls : selection.OnlyCalls node)
    (silent : callees.Silent) : EitherOrder selection callees node := by
  induction node using Node.induction_on_children generalizing selection callees with
  | step node inductionHypothesis =>
      have inChild (index : Nat) (child : Node) (found : node.children[index]? = some child) :
          EitherOrder (selection.inChild index) (callees.inChild index) child :=
        inductionHypothesis child (List.mem_of_getElem? found) (onlyCalls.inChild found)
          fun below callee replaced => silent (index :: below) callee replaced
      by_cases isCall : ∃ span callee arguments, node = .call span callee arguments
      · obtain ⟨span, callee, arguments, rfl⟩ := isCall
        exact eitherOrder_call silent inChild
      · have notSelected : selection [] = false :=
          Bool.eq_false_iff.mpr fun selected => isCall (onlyCalls [] node selected rfl)
        exact eitherOrder_of_not_call
          (fun span callee arguments is => isCall ⟨span, callee, arguments, is⟩) notSelected inChild

/-! ## Positions -/

theorem withoutSpans_withoutMessage (arguments : List Node) :
    allWithoutSpans (withoutMessage arguments) = withoutMessage (allWithoutSpans arguments) := by
  rcases arguments with _ | ⟨code, _ | ⟨message, trailing⟩⟩ <;> rfl

mutual

/-- Messages are removed wherever the nodes stand in a text. -/
theorem withoutSpans_withoutMessagesAt (selection : Selection) :
    ∀ node : Node, (withoutMessagesAt selection node).withoutSpans =
      withoutMessagesAt selection node.withoutSpans
  | .identifier .. => rfl
  | .string .. => rfl
  | .sum _ left right => by
      simp only [withoutMessagesAt, Node.withoutSpans, withoutSpans_withoutMessagesAt _ left,
        withoutSpans_withoutMessagesAt _ right]
  | .parens _ inner => by
      simp only [withoutMessagesAt, Node.withoutSpans, withoutSpans_withoutMessagesAt _ inner]
  | .spread _ inner => by
      simp only [withoutMessagesAt, Node.withoutSpans, withoutSpans_withoutMessagesAt _ inner]
  | .call _ callee arguments => by
      simp only [withoutMessagesAt, Node.withoutSpans, withoutSpans_withoutMessagesAt _ callee]
      split <;> simp only [withoutSpans_withoutMessage,
        allWithoutSpans_allWithoutMessagesAt _ _ arguments]
  | .construct _ callee arguments => by
      simp only [withoutMessagesAt, Node.withoutSpans, withoutSpans_withoutMessagesAt _ callee,
        allWithoutSpans_allWithoutMessagesAt _ _ arguments]
  | .throwing _ operand => by
      simp only [withoutMessagesAt, Node.withoutSpans, withoutSpans_withoutMessagesAt _ operand]
  | .function _ _ parameters body => by
      simp only [withoutMessagesAt, Node.withoutSpans, withoutSpans_withoutMessagesAt _ body,
        allWithoutSpans_allWithoutMessagesAt _ _ parameters, allWithoutSpans_eq_map,
        List.length_map]
  | .other _ _ children => by
      simp only [withoutMessagesAt, Node.withoutSpans,
        allWithoutSpans_allWithoutMessagesAt _ _ children]

theorem allWithoutSpans_allWithoutMessagesAt (selection : Selection) (start : Nat) :
    ∀ nodes : List Node, allWithoutSpans (allWithoutMessagesAt selection start nodes) =
      allWithoutMessagesAt selection start (allWithoutSpans nodes)
  | [] => rfl
  | node :: rest => by
      simp only [allWithoutMessagesAt, allWithoutSpans, withoutSpans_withoutMessagesAt _ node,
        allWithoutSpans_allWithoutMessagesAt _ _ rest]

end

theorem withoutSpans_programWithoutMessagesAt (selection : Selection) (program : Program) :
    (programWithoutMessagesAt selection program).withoutSpans =
      programWithoutMessagesAt selection program.withoutSpans := by
  rw [programWithoutMessagesAt, Program.withoutSpans, allWithoutSpans_allWithoutMessagesAt]
  rfl

end Extraction
end ErrorTemplates
