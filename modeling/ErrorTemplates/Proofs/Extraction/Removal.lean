import ErrorTemplates.Proofs.Extraction.Recognition
import ErrorTemplates.Proofs.Tree.Change

/-!
# Removing messages

The calls at selected addresses lose their second argument, and everything else about the
tree stays. The addresses are those of the tree before anything is removed from it.
-/

namespace ErrorTemplates
namespace Extraction

open Program

/-- Some of the addresses of a tree. -/
abbrev Selection := Address -> Bool

/-- What a selection says about the addresses in a child. -/
def Selection.inChild (selection : Selection) (index : Nat) : Selection :=
  fun below => selection (index :: below)

/-- None of the addresses. -/
def Selection.none : Selection := fun _ => false

@[simp] theorem Selection.inChild_none (index : Nat) :
    Selection.none.inChild index = Selection.none := rfl

mutual

/-- A tree in which the calls at selected addresses have lost their messages. -/
def withoutMessagesAt (selection : Selection) : Node -> Node
  | .identifier span name => .identifier span name
  | .string span raw value => .string span raw value
  | .sum span left right =>
      .sum span (withoutMessagesAt (selection.inChild 0) left)
        (withoutMessagesAt (selection.inChild 1) right)
  | .parens span inner => .parens span (withoutMessagesAt (selection.inChild 0) inner)
  | .spread span inner => .spread span (withoutMessagesAt (selection.inChild 0) inner)
  | .call span callee arguments =>
      let callee := withoutMessagesAt (selection.inChild 0) callee
      let arguments := allWithoutMessagesAt selection 1 arguments
      .call span callee (if selection [] then withoutMessage arguments else arguments)
  | .construct span callee arguments =>
      .construct span (withoutMessagesAt (selection.inChild 0) callee)
        (allWithoutMessagesAt selection 1 arguments)
  | .throwing span operand =>
      .throwing span (withoutMessagesAt (selection.inChild 0) operand)
  | .function span signature parameters body =>
      .function span signature (allWithoutMessagesAt selection 0 parameters)
        (withoutMessagesAt (selection.inChild parameters.length) body)
  | .other span shape children => .other span shape (allWithoutMessagesAt selection 0 children)

/-- Trees, numbered from a start, in which the selected calls have lost their messages. -/
def allWithoutMessagesAt (selection : Selection) (start : Nat) : List Node -> List Node
  | [] => []
  | node :: rest =>
      withoutMessagesAt (selection.inChild start) node ::
        allWithoutMessagesAt selection (start + 1) rest

end

/-- A program in which the calls at selected addresses have lost their messages. -/
def programWithoutMessagesAt (selection : Selection) (program : Program) : Program :=
  { program with items := allWithoutMessagesAt selection 0 program.items }

theorem allWithoutMessagesAt_eq_mapIdx
    (selection : Selection)
    (start : Nat)
    (nodes : List Node) :
    allWithoutMessagesAt selection start nodes =
      nodes.mapIdx fun index => withoutMessagesAt (selection.inChild (index + start)) := by
  induction nodes generalizing start with
  | nil => rfl
  | cons node rest inductionHypothesis =>
      simp only [allWithoutMessagesAt, List.mapIdx_cons, inductionHypothesis, Nat.zero_add,
        Nat.add_right_comm _ 1 start, Nat.add_assoc]

theorem allWithoutMessagesAt_append
    (selection : Selection)
    (start : Nat)
    (first second : List Node) :
    allWithoutMessagesAt selection start (first ++ second) =
      allWithoutMessagesAt selection start first ++
        allWithoutMessagesAt selection (start + first.length) second := by
  simp only [allWithoutMessagesAt_eq_mapIdx, List.mapIdx_append, Nat.add_assoc,
    Nat.add_comm start]

/-- A node that is a call without its second argument. -/
def withoutOwnMessage : Node -> Node
  | .call span callee arguments => .call span callee (withoutMessage arguments)
  | node => node

/-- Messages are removed in each child, and then from the node itself if it is selected. -/
theorem withoutMessagesAt_eq (selection : Selection) (node : Node) :
    withoutMessagesAt selection node =
      let changed := node.mapChildren fun index =>
        withoutMessagesAt (selection.inChild index)
      if selection [] then withoutOwnMessage changed else changed := by
  cases node with
  | call =>
      by_cases selected : selection [] <;>
        simp [selected, withoutMessagesAt, Node.mapChildren, withoutOwnMessage,
          allWithoutMessagesAt_eq_mapIdx]
  | _ =>
      simp [withoutMessagesAt, Node.mapChildren, withoutOwnMessage,
        allWithoutMessagesAt_eq_mapIdx]

/-- Only what is selected among the addresses of the trees matters. -/
theorem allWithoutMessagesAt_congr
    {first second : Selection}
    {start : Nat}
    (agree : ∀ index below, start ≤ index -> first (index :: below) = second (index :: below))
    (nodes : List Node) :
    allWithoutMessagesAt first start nodes = allWithoutMessagesAt second start nodes := by
  have same (index : Nat) :
      first.inChild (index + start) = second.inChild (index + start) :=
    funext fun below => agree _ below (Nat.le_add_left start index)
  simp only [allWithoutMessagesAt_eq_mapIdx, same]

/-- Nothing changes where nothing is selected. -/
@[simp] theorem withoutMessagesAt_none (node : Node) :
    withoutMessagesAt .none node = node := by
  induction node using Node.induction_on_children with
  | step node inductionHypothesis =>
      rw [withoutMessagesAt_eq]
      exact node.mapChildren_eq_self fun index child found =>
        inductionHypothesis child (List.mem_of_getElem? found)

@[simp] theorem allWithoutMessagesAt_none (start : Nat) (nodes : List Node) :
    allWithoutMessagesAt .none start nodes = nodes := by
  have same : withoutMessagesAt .none = id := funext withoutMessagesAt_none
  rw [allWithoutMessagesAt_eq_mapIdx]
  exact List.mapIdx_eq_iff.mpr fun index => by simp [same]

/-! ## What holds no calls -/

/-- The operands of a constant expression are constant. -/
theorem exists_constant?_of_mem_children
    {node child : Node}
    {text : String}
    (constant : constant? node = some text)
    (isChild : child ∈ node.children) : ∃ part, constant? child = some part := by
  cases node with
  | sum span left right =>
      simp only [constant?, Option.bind_eq_bind, Option.bind_eq_some_iff] at constant
      obtain ⟨first, leftConstant, second, rightConstant, _⟩ := constant
      rcases List.mem_cons.mp isChild with rfl | isRight
      · exact ⟨first, leftConstant⟩
      · obtain rfl := List.mem_singleton.mp isRight
        exact ⟨second, rightConstant⟩
  | parens span inner =>
      obtain rfl := List.mem_singleton.mp isChild
      exact ⟨text, constant⟩
  | string => simp [Node.children] at isChild
  | _ => simp [constant?] at constant

/-- All parts of a constant expression are constant. -/
theorem exists_constant?_of_subtree?
    {node found : Node}
    {text : String}
    {address : Address}
    (constant : constant? node = some text)
    (present : node.subtree? address = some found) : ∃ part, constant? found = some part := by
  induction address generalizing node text with
  | nil =>
      obtain rfl := Option.some.inj present
      exact ⟨text, constant⟩
  | cons index below inductionHypothesis =>
      rw [Node.subtree?_cons, subtreeAmong?_eq_some_iff] at present
      obtain ⟨child, isChild, presentBelow⟩ := present
      obtain ⟨part, childConstant⟩ :=
        exists_constant?_of_mem_children constant (List.mem_of_getElem? isChild)
      exact inductionHypothesis childConstant presentBelow

/-- A constant expression has no messages to lose. -/
theorem withoutMessagesAt_of_constant
    {node : Node}
    {text : String}
    (selection : Selection)
    (constant : constant? node = some text) :
    withoutMessagesAt selection node = node := by
  fun_induction constant? node generalizing selection text with
  | case1 => rfl
  | case2 span left right leftHypothesis rightHypothesis =>
      simp only [Option.bind_eq_bind, Option.bind_eq_some_iff] at constant
      obtain ⟨first, leftConstant, second, rightConstant, _⟩ := constant
      simp [withoutMessagesAt, leftHypothesis _ leftConstant, rightHypothesis _ rightConstant]
  | case3 span inner innerHypothesis =>
      simp [withoutMessagesAt, innerHypothesis _ constant]
  | case4 => simp at constant

/-- The callee of a call that makes an error has no messages to lose. -/
theorem withoutMessagesAt_of_maker
    {naming : Naming}
    {callee : Node}
    {maker : Maker}
    (selection : Selection)
    (makes : naming.maker? callee = some maker) :
    withoutMessagesAt selection callee = callee := by
  obtain ⟨span, name, rfl, _⟩ | ⟨span, factorySpan, argument, rfl, _, constant⟩ :=
    (naming.maker?_eq_some_iff callee maker).mp makes
  · rfl
  · simp [withoutMessagesAt, allWithoutMessagesAt, withoutMessagesAt_of_constant _ constant]

end Extraction
end ErrorTemplates
