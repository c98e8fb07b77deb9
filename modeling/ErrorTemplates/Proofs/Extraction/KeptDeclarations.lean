import ErrorTemplates.Proofs.Extraction.Declarations
import ErrorTemplates.Proofs.Extraction.Stripping
import Mathlib.Algebra.Ring.Nat

/-!
# Removing messages keeps declarations

A removed message is constant and holds no declaration. A program that has lost its messages
therefore declares a name as often as before, and a declaration of which there is only one
is found again at the address to which it has moved.
-/

namespace ErrorTemplates
namespace Extraction

open Program

/-! ## In a tree -/

/-- What is found in several trees is found in one of them. -/
theorem length_declarationsFrom (name : String) (start : Nat) (nodes : List Node) :
    (declarationsFrom name start nodes).length =
      (nodes.map fun node => (declarationsIn name node).length).sum := by
  induction nodes generalizing start with
  | nil => rfl
  | cons node rest inductionHypothesis =>
      rw [declarationsFrom_cons, List.length_append, List.length_map, inductionHypothesis,
        List.map_cons, List.sum_cons]

theorem length_declarationsIn (name : String) (node : Node) :
    (declarationsIn name node).length =
      (if declares name node then 1 else 0) +
        (node.children.map fun child => (declarationsIn name child).length).sum := by
  rw [declarationsIn_eq, List.length_append, length_declarationsFrom]
  cases declares name node <;> rfl

theorem declares_mapChildren (name : String) (change : Nat -> Node -> Node) (node : Node) :
    declares name (node.mapChildren change) = declares name node := by
  cases node <;> rfl

theorem declares_withoutOwnMessage (name : String) (node : Node) :
    declares name (withoutOwnMessage node) = declares name node := by
  cases node <;> rfl

theorem declares_withoutMessagesAt (name : String) (selection : Selection) (node : Node) :
    declares name (withoutMessagesAt selection node) = declares name node := by
  cases node <;> simp [withoutMessagesAt, declares]

/-- A message without declarations takes none away. -/
theorem length_declarationsIn_withoutOwnMessage
    {name : String}
    {node : Node}
    (noneInMessage : ∀ message, node.children[2]? = some message ->
      declarationsIn name message = []) :
    (declarationsIn name (withoutOwnMessage node)).length =
      (declarationsIn name node).length := by
  rw [length_declarationsIn, length_declarationsIn, declares_withoutOwnMessage]
  cases node with
  | call span callee arguments =>
      rcases arguments with _ | ⟨code, _ | ⟨message, trailing⟩⟩
      · rfl
      · rfl
      · have messageNone := noneInMessage message rfl
        simp [withoutOwnMessage, Node.children, messageNone]
  | _ => rfl

/-- The messages that are removed hold no declarations. -/
def Spares (name : String) (selection : Selection) (node : Node) : Prop :=
  ∀ address found message, selection address = true -> node.subtree? address = some found ->
    found.children[2]? = some message -> declarationsIn name message = []

theorem Spares.inChild
    {name : String}
    {selection : Selection}
    {node child : Node}
    {index : Nat}
    (spares : Spares name selection node)
    (isChild : node.children[index]? = some child) :
    Spares name (selection.inChild index) child := by
  intro address found message selected present isMessage
  refine spares (index :: address) found message selected ?_ isMessage
  rw [Node.subtree?_cons, subtreeAmong?_eq_some_iff]
  exact ⟨child, isChild, present⟩

/-- Changes that keep a number of each tree keep the sum of the numbers. -/
theorem map_mapIdx_of_kept
    {number : Node -> Nat}
    {change : Nat -> Node -> Node}
    {nodes : List Node}
    (kept : ∀ index node, nodes[index]? = some node ->
      number (change index node) = number node) :
    (nodes.mapIdx change).map number = nodes.map number := by
  refine List.ext_getElem? fun index => ?_
  cases found : nodes[index]? with
  | none => simp [found]
  | some node => simp [found, kept index node found]

/-- Removing messages that hold no declarations keeps the number of declarations. -/
theorem length_declarationsIn_withoutMessagesAt
    {name : String}
    {selection : Selection}
    {node : Node}
    (spares : Spares name selection node) :
    (declarationsIn name (withoutMessagesAt selection node)).length =
      (declarationsIn name node).length := by
  induction node using Node.induction_on_children generalizing selection with
  | step node inductionHypothesis =>
      let changed := node.mapChildren fun index => withoutMessagesAt (selection.inChild index)
      have childKept : ∀ index child, node.children[index]? = some child ->
          (declarationsIn name (withoutMessagesAt (selection.inChild index) child)).length =
            (declarationsIn name child).length :=
        fun index child isChild =>
          inductionHypothesis child (List.mem_of_getElem? isChild) (spares.inChild isChild)
      have changed_eq : (declarationsIn name changed).length =
          (declarationsIn name node).length := by
        rw [length_declarationsIn, declares_mapChildren, Node.children_mapChildren,
          map_mapIdx_of_kept childKept, ← length_declarationsIn]
      rw [withoutMessagesAt_eq]
      cases selected : selection [] with
      | false => exact changed_eq
      | true =>
          refine (length_declarationsIn_withoutOwnMessage ?_).trans changed_eq
          intro message isMessage
          rw [Node.children_mapChildren, List.getElem?_mapIdx] at isMessage
          obtain ⟨original, isOriginal, rfl⟩ := Option.map_eq_some_iff.mp isMessage
          rw [← List.length_eq_zero_iff, childKept 2 original isOriginal,
            List.length_eq_zero_iff]
          exact spares [] node original selected rfl isOriginal

/-! ## In a program -/

/-- A constant expression declares nothing. -/
theorem declarationsIn_of_constant
    {node : Node}
    {text : String}
    (name : String)
    (constant : constant? node = some text) : declarationsIn name node = [] := by
  refine List.filter_eq_nil_iff.mpr fun occurrence present isDeclared => ?_
  obtain ⟨part, partConstant⟩ := exists_constant?_of_subtree? constant
    ((node.mem_occurrences_iff occurrence).mp present)
  cases isNode : occurrence.node <;> simp [isNode, declares, constant?] at isDeclared partConstant

/-- A program keeps its declarations when it loses its messages. -/
theorem length_declarations_strip
    {naming : Naming}
    {program : Program}
    (folded : ∀ errorCall ∈ errorCalls naming program, errorCall.folded? ≠ none)
    (name : String) :
    (declarations name (strip naming program)).length = (declarations name program).length := by
  have items_eq : (strip naming program).items = program.items.mapIdx fun index =>
      withoutMessagesAt ((losesMessageAt naming program).inChild index) :=
    allWithoutMessagesAt_eq_mapIdx (losesMessageAt naming program) 0 program.items
  rw [declarations, declarations, length_declarationsFrom, length_declarationsFrom, items_eq]
  congr 1
  refine map_mapIdx_of_kept fun index item isItem => ?_
  refine length_declarationsIn_withoutMessagesAt fun address found message loses present
    isMessage => ?_
  obtain ⟨node, constantMessage, text, isNode, isConstantMessage, constant⟩ :=
    exists_message_of_losesMessageAt folded loses
  have presentInProgram : program.subtree? (index :: address) = some found :=
    (subtreeAmong?_eq_some_iff _ _ _ _).mpr ⟨item, isItem, present⟩
  obtain rfl := Option.some.inj (isNode.symm.trans presentInProgram)
  obtain rfl := Option.some.inj (isMessage.symm.trans isConstantMessage)
  exact declarationsIn_of_constant name constant

theorem mem_declarations_iff (name : String) (program : Program) (occurrence : Occurrence) :
    occurrence ∈ declarations name program ↔
      program.subtree? occurrence.address = some occurrence.node ∧
        declares name occurrence.node = true := by
  rw [declarations, declarationsFrom, List.mem_filter, ← Program.occurrences,
    Program.mem_occurrences_iff]

/-- The only declaration of a program is still the only one when the program has lost its
messages. -/
theorem exists_declarations_strip_eq_singleton
    {naming : Naming}
    {program : Program}
    (folded : ∀ errorCall ∈ errorCalls naming program, errorCall.folded? ≠ none)
    {name : String}
    {only : Occurrence}
    (single : declarations name program = [only]) :
    ∃ left, declarations name (strip naming program) = [left] ∧
      (losesMessageAt naming program).shift? only.address = some left.address := by
  obtain ⟨left, leftOnly⟩ : ∃ left, declarations name (strip naming program) = [left] := by
    rw [← List.length_eq_one_iff, length_declarations_strip folded, single]
    rfl
  obtain ⟨present, isDeclared⟩ := (mem_declarations_iff name program only).mp
    (by rw [single]; exact List.mem_singleton.mpr rfl)
  have notConstant : constant? only.node = none := by
    cases isNode : only.node <;> simp [isNode, declares, constant?] at isDeclared ⊢
  obtain ⟨moved, shifted, found⟩ := exists_subtree?_strip folded present notConstant
  have isLeft := (mem_declarations_iff name (strip naming program) ⟨moved, _⟩).mpr
    ⟨found, (declares_withoutMessagesAt name _ _).trans isDeclared⟩
  rw [leftOnly, List.mem_singleton] at isLeft
  refine ⟨left, leftOnly, ?_⟩
  rw [shifted, ← isLeft]

end Extraction
end ErrorTemplates
