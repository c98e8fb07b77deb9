import ErrorTemplates.Proofs.Extraction.Removal

/-!
# Where nodes stand after messages were removed

A removed message takes the place of no other argument: the arguments after it move up by
one, and every node that is not part of a removed message is found again.
-/

namespace ErrorTemplates
namespace Extraction

open Program

namespace Selection

/-- What a selection says about the addresses below an address. -/
def below : Selection -> Address -> Selection
  | selection, [] => selection
  | selection, index :: rest => (selection.inChild index).below rest

/-- The address of a node after messages were removed, unless it is in one of them. -/
def shift? : Selection -> Address -> Option Address
  | _, [] => some []
  | selection, index :: rest =>
      if selection [] && index == 2 then Option.none
      else
        ((selection.inChild index).shift? rest).map
          ((if selection [] && decide (2 < index) then index - 1 else index) :: ·)

/-- Only calls of a tree are selected. -/
def OnlyCalls (selection : Selection) (node : Node) : Prop :=
  ∀ address found, selection address = true -> node.subtree? address = some found ->
    ∃ span callee arguments, found = .call span callee arguments

theorem OnlyCalls.inChild
    {selection : Selection}
    {node child : Node}
    {index : Nat}
    (onlyCalls : selection.OnlyCalls node)
    (found : node.children[index]? = some child) :
    (selection.inChild index).OnlyCalls child := by
  intro address inner selected present
  refine onlyCalls (index :: address) inner selected ?_
  rw [Node.subtree?_cons, subtreeAmong?_eq_some_iff]
  exact ⟨child, found, present⟩

theorem below_apply (selection : Selection) (above rest : Address) :
    selection.below above rest = selection (above ++ rest) := by
  induction above generalizing selection with
  | nil => rfl
  | cons index above inductionHypothesis => exact inductionHypothesis (selection.inChild index)

/-- A node that is in no removed message has an address afterwards. -/
theorem exists_shift?
    {selection : Selection}
    {address : Address}
    (outside : ∀ above rest, address = above ++ 2 :: rest -> selection above = false) :
    ∃ moved, selection.shift? address = some moved := by
  induction address generalizing selection with
  | nil => exact ⟨[], rfl⟩
  | cons index rest inductionHypothesis =>
      have keptHere : (selection [] && index == 2) = false := by
        by_cases isMessage : index = 2
        · rw [outside [] rest (by rw [isMessage, List.nil_append]), Bool.false_and]
        · rw [beq_false_of_ne isMessage, Bool.and_false]
      obtain ⟨moved, shifted⟩ : ∃ moved, (selection.inChild index).shift? rest = some moved :=
        inductionHypothesis fun above inner rest_eq =>
          outside (index :: above) inner (by rw [rest_eq, List.cons_append])
      simp only [shift?, keptHere, shifted, Bool.false_eq_true, if_false, Option.map_some]
      exact ⟨_, rfl⟩

end Selection

theorem getElem?_withoutMessage (arguments : List Node) (index : Nat) :
    (withoutMessage arguments)[index]? = arguments[if index = 0 then 0 else index + 1]? := by
  rcases arguments with _ | ⟨code, _ | ⟨message, trailing⟩⟩
  · simp
  · cases index <;> simp
  · cases index <;> simp

/-- A child that is not a removed message is found again, without its own messages. -/
theorem getElem?_children_withoutMessagesAt
    {selection : Selection}
    {node child : Node}
    {index : Nat}
    (isCall : selection [] = true -> ∃ span callee arguments, node = .call span callee arguments)
    (found : node.children[index]? = some child)
    (kept : (selection [] && index == 2) = false) :
    (withoutMessagesAt selection node).children[
        if selection [] && decide (2 < index) then index - 1 else index]? =
      some (withoutMessagesAt (selection.inChild index) child) := by
  cases selected : selection [] with
  | false =>
      simp [withoutMessagesAt_eq, selected, found]
  | true =>
      obtain ⟨span, callee, arguments, rfl⟩ := isCall selected
      have notMessage : index ≠ 2 := by simpa [selected] using kept
      have argument_eq (number : Nat) :
          (allWithoutMessagesAt selection 1 arguments)[number]? =
            (arguments[number]?).map (withoutMessagesAt (selection.inChild (number + 1))) := by
        simp [allWithoutMessagesAt_eq_mapIdx]
      have children_eq : (withoutMessagesAt selection (.call span callee arguments)).children =
          withoutMessagesAt (selection.inChild 0) callee ::
            withoutMessage (allWithoutMessagesAt selection 1 arguments) := by
        simp [withoutMessagesAt, selected, Node.children]
      rw [children_eq]
      rcases index with _ | _ | _ | index
      · obtain rfl : callee = child := Option.some.inj found
        rfl
      · have atCode : arguments[0]? = some child := found
        simp [getElem?_withoutMessage, argument_eq, atCode]
      · exact absurd rfl notMessage
      · have atTrailing : arguments[index + 2]? = some child := found
        simp [getElem?_withoutMessage, argument_eq, atTrailing]

/-- A node that is in no removed message is found at its new address, without the messages
that were removed in it. -/
theorem subtree?_withoutMessagesAt
    {selection : Selection}
    {node found : Node}
    {address moved : Address}
    (onlyCalls : selection.OnlyCalls node)
    (present : node.subtree? address = some found)
    (shifted : selection.shift? address = some moved) :
    (withoutMessagesAt selection node).subtree? moved =
      some (withoutMessagesAt (selection.below address) found) := by
  induction address generalizing selection node moved with
  | nil =>
      obtain rfl := Option.some.inj present
      obtain rfl := Option.some.inj shifted
      rfl
  | cons index rest inductionHypothesis =>
      rw [Node.subtree?_cons, subtreeAmong?_eq_some_iff] at present
      obtain ⟨child, isChild, presentBelow⟩ := present
      rw [Selection.shift?] at shifted
      split at shifted
      · simp at shifted
      · next kept =>
          obtain ⟨movedBelow, shiftedBelow, rfl⟩ := Option.map_eq_some_iff.mp shifted
          have changedChild := getElem?_children_withoutMessagesAt
            (fun selected => onlyCalls [] node selected rfl) isChild (by simpa using kept)
          rw [Node.subtree?_cons, subtreeAmong?_eq_some_iff]
          exact ⟨_, changedChild,
            inductionHypothesis (onlyCalls.inChild isChild) presentBelow shiftedBelow⟩

/-- A node of a program that is in no removed message is found at its new address. -/
theorem subtree?_programWithoutMessagesAt
    {selection : Selection}
    {program : Program}
    {found : Node}
    {address moved : Address}
    (onlyCalls : ∀ address found, selection address = true ->
      program.subtree? address = some found -> ∃ span callee arguments,
        found = .call span callee arguments)
    (notAtTop : selection [] = false)
    (present : program.subtree? address = some found)
    (shifted : selection.shift? address = some moved) :
    (programWithoutMessagesAt selection program).subtree? moved =
      some (withoutMessagesAt (selection.below address) found) := by
  cases address with
  | nil => simp [Program.subtree?] at present
  | cons index rest =>
      obtain ⟨item, isItem, presentBelow⟩ := (subtreeAmong?_eq_some_iff _ _ _ _).mp present
      rw [Selection.shift?, notAtTop, Bool.false_and, Bool.false_and, if_neg Bool.false_ne_true,
        if_neg Bool.false_ne_true] at shifted
      obtain ⟨movedBelow, shiftedBelow, rfl⟩ := Option.map_eq_some_iff.mp shifted
      have onlyCallsInItem : (selection.inChild index).OnlyCalls item := by
        intro address found selected present
        refine onlyCalls (index :: address) found selected ?_
        exact (subtreeAmong?_eq_some_iff _ _ _ _).mpr ⟨item, isItem, present⟩
      have isChangedItem : (programWithoutMessagesAt selection program).items[index]? =
          some (withoutMessagesAt (selection.inChild index) item) := by
        simp [programWithoutMessagesAt, allWithoutMessagesAt_eq_mapIdx, isItem]
      exact (subtreeAmong?_eq_some_iff _ _ _ _).mpr
        ⟨_, isChangedItem, subtree?_withoutMessagesAt onlyCallsInItem presentBelow shiftedBelow⟩

end Extraction
end ErrorTemplates
