import ErrorTemplates.Extraction.Visit
import ErrorTemplates.Proofs.Extraction.Event
import ErrorTemplates.Proofs.Extraction.Removal

/-!
# The trace of a visit

The events of a visit, in their order, follow from the tree alone. So does what they remove:
in each child what the events of that child remove, unless an earlier event was fatal.
-/

namespace ErrorTemplates
namespace Extraction

open Program

/-- A call as an event at the root of a tree, if it makes an error. -/
def callEvent? (naming : Naming) (isThrown : Bool) (call : Call) : Option Event :=
  (naming.match? call.callee call.arguments).map fun found =>
    .makes { address := [], call, found } isThrown

/-- A function declaration as an event at the root of a tree, if it declares the factory. -/
def declarationEvent? (naming : Naming) (signature : Signature) : Option Event :=
  if signature.name = naming.factory then some (.declares [] signature.nameSpan) else none

mutual

/-- The events of the visit of a node at a place. -/
def trace (naming : Naming) (place : Place) : Node -> List Event
  | .identifier .. => []
  | .string .. => []
  | .sum _ left right =>
      (trace naming .plain left).map (Event.inChild 0) ++
        (trace naming .plain right).map (Event.inChild 1)
  | .parens _ inner => (trace naming place inner).map (Event.inChild 0)
  | .spread _ inner => (trace naming .plain inner).map (Event.inChild 0)
  | .call span callee arguments =>
      if place = .operand then traceAll naming .wrapped 1 arguments
      else
        (callEvent? naming (place == .wrapped) { span, callee, arguments }).toList ++
          ((trace naming .plain callee).map (Event.inChild 0) ++
            traceAll naming .plain 1 arguments)
  | .construct _ callee arguments =>
      if place = .operand then traceAll naming .wrapped 1 arguments
      else
        (trace naming .plain callee).map (Event.inChild 0) ++
          traceAll naming .plain 1 arguments
  | .throwing _ operand =>
      let place := if hidesError naming operand then .operand else .plain
      (trace naming place operand).map (Event.inChild 0)
  | .function _ signature parameters body =>
      (declarationEvent? naming signature).toList ++
        (traceAll naming .plain 0 parameters ++
          (trace naming .plain body).map (Event.inChild parameters.length))
  | .other _ _ children => traceAll naming .plain 0 children

/-- The events of the visit of nodes at a place, which are numbered from a start. -/
def traceAll (naming : Naming) (place : Place) (start : Nat) : List Node -> List Event
  | [] => []
  | node :: rest =>
      (trace naming place node).map (Event.inChild start) ++
        traceAll naming place (start + 1) rest

end

theorem traceAll_append
    (naming : Naming)
    (place : Place)
    (start : Nat)
    (first second : List Node) :
    traceAll naming place start (first ++ second) =
      traceAll naming place start first ++
        traceAll naming place (start + first.length) second := by
  induction first generalizing start with
  | nil => rfl
  | cons node rest inductionHypothesis =>
      rw [List.cons_append, traceAll, traceAll, inductionHypothesis, List.append_assoc,
        List.length_cons, Nat.add_right_comm, Nat.add_assoc start]

/-- A constant expression has no events. -/
theorem trace_of_constant
    {node : Node}
    {text : String}
    (naming : Naming)
    (place : Place)
    (constant : constant? node = some text) : trace naming place node = [] := by
  fun_induction constant? node generalizing place text with
  | case1 => rfl
  | case2 span left right leftHypothesis rightHypothesis =>
      simp only [Option.bind_eq_bind, Option.bind_eq_some_iff] at constant
      obtain ⟨first, leftConstant, second, rightConstant, _⟩ := constant
      simp [trace, leftHypothesis _ leftConstant, rightHypothesis _ rightConstant]
  | case3 span inner innerHypothesis => simp [trace, innerHypothesis _ constant]
  | case4 => simp at constant

/-- Events in trees that are numbered from a start take place below those numbers. -/
theorem address_of_mem_traceAll
    {naming : Naming}
    {place : Place}
    {start : Nat}
    {nodes : List Node}
    {event : Event}
    (present : event ∈ traceAll naming place start nodes) :
    ∃ index below, start ≤ index ∧ event.address = index :: below := by
  induction nodes generalizing start with
  | nil => simp [traceAll] at present
  | cons node rest inductionHypothesis =>
      rcases List.mem_append.mp present with inNode | inRest
      · obtain ⟨inner, _, rfl⟩ := List.mem_map.mp inNode
        exact ⟨start, inner.address, Nat.le_refl start, Event.address_inChild start inner⟩
      · obtain ⟨index, below, later, address_eq⟩ := inductionHypothesis inRest
        exact ⟨index, below, Nat.le_of_succ_le later, address_eq⟩

/-! ## What a trace removes -/

/-- The addresses from which messages are removed by events. -/
def removed (isStopped : Bool) (events : List Event) : Selection :=
  fun address => (removals isStopped events).contains address

@[simp] theorem removed_true (events : List Event) : removed true events = .none := rfl

@[simp] theorem removed_nil (isStopped : Bool) : removed isStopped [] = .none := by
  funext address
  simp [removed, Selection.none]

theorem removed_append (isStopped : Bool) (first second : List Event) (address : Address) :
    removed isStopped (first ++ second) address =
      (removed isStopped first address ||
        removed (isStopped || first.any Event.isFatal) second address) := by
  simp [removed, removals_append]

/-- What happens elsewhere removes nothing at an address. -/
theorem removed_eq_false
    {events : List Event}
    {address : Address}
    (elsewhere : ∀ event ∈ events, event.address ≠ address)
    (isStopped : Bool) : removed isStopped events address = false := by
  simp only [removed, List.contains_eq_mem, decide_eq_false_iff_not]
  intro present
  obtain ⟨event, isEvent, address_eq⟩ := mem_address_of_mem_removals present
  exact elsewhere event isEvent address_eq

@[simp] theorem any_isFatal_map_inChild (index : Nat) (events : List Event) :
    (events.map (Event.inChild index)).any Event.isFatal = events.any Event.isFatal := by
  simp [Function.comp_def]

@[simp] theorem foldl_apply_map_inChild
    (sources : Sources)
    (progress : Progress)
    (index : Nat)
    (events : List Event) :
    (events.map (Event.inChild index)).foldl (Event.apply sources) progress =
      events.foldl (Event.apply sources) progress := by
  simp [List.foldl_map]

theorem removed_map_inChild
    (isStopped : Bool)
    (index number : Nat)
    (events : List Event)
    (below : Address) :
    removed isStopped (events.map (Event.inChild index)) (number :: below) =
      (decide (number = index) && removed isStopped events below) := by
  by_cases same : number = index
  · subst same
    simp [removed, removals_map_inChild]
  · simp [removed, removals_map_inChild, same, Ne.symm same]

/-- In a child, what the events of that child remove is removed, and nothing else. -/
theorem inChild_removed_map_append
    {rest : List Event}
    {index : Nat}
    (elsewhere : ∀ event ∈ rest, ∀ below, event.address ≠ index :: below)
    (isStopped : Bool)
    (events : List Event) :
    (removed isStopped (events.map (Event.inChild index) ++ rest)).inChild index =
      removed isStopped events := by
  funext below
  rw [Selection.inChild, removed_append, removed_map_inChild,
    removed_eq_false fun event present => elsewhere event present below]
  simp

@[simp] theorem inChild_removed_map (isStopped : Bool) (index : Nat) (events : List Event) :
    (removed isStopped (events.map (Event.inChild index))).inChild index =
      removed isStopped events := by
  funext below
  simp [Selection.inChild, removed_map_inChild]

/-- In later children, what happens in an earlier one only matters if it is fatal. -/
theorem removed_map_append_of_ne
    {index number : Nat}
    (other : number ≠ index)
    (isStopped : Bool)
    (events rest : List Event)
    (below : Address) :
    removed isStopped (events.map (Event.inChild index) ++ rest) (number :: below) =
      removed (isStopped || events.any Event.isFatal) rest (number :: below) := by
  rw [removed_append, removed_map_inChild, any_isFatal_map_inChild]
  simp [other]

/-- Events in children that are numbered from a start are not in earlier children. -/
theorem inChild_removed_traceAll
    {start number : Nat}
    (earlier : number < start)
    (naming : Naming)
    (place : Place)
    (isStopped : Bool)
    (nodes : List Node) :
    (removed isStopped (traceAll naming place start nodes)).inChild number = .none := by
  funext below
  refine removed_eq_false (fun event present equal => ?_) isStopped
  obtain ⟨index, _, later, address_eq⟩ := address_of_mem_traceAll present
  obtain ⟨rfl, _⟩ := List.cons.inj (address_eq.symm.trans equal)
  omega

/-- Events at the root only matter to the children if they are fatal. -/
theorem removed_root_append_cons
    {own : List Event}
    (atRoot : ∀ event ∈ own, event.address = [])
    (isStopped : Bool)
    (rest : List Event)
    (index : Nat)
    (below : Address) :
    removed isStopped (own ++ rest) (index :: below) =
      removed (isStopped || own.any Event.isFatal) rest (index :: below) := by
  have elsewhere : removed isStopped own (index :: below) = false :=
    removed_eq_false (fun event present equal => by simp [atRoot event present] at equal) _
  rw [removed_append, elsewhere, Bool.false_or]

/-- The children of a node are changed as if the visit began after the events at the
root. -/
theorem allWithoutMessagesAt_root_append
    {own : List Event}
    (atRoot : ∀ event ∈ own, event.address = [])
    (sources : Sources)
    (progress : Progress)
    (rest : List Event)
    (nodes : List Node) :
    allWithoutMessagesAt (removed progress.isStopped (own ++ rest)) 0 nodes =
      allWithoutMessagesAt
        (removed (own.foldl (Event.apply sources) progress).isStopped rest) 0 nodes := by
  refine allWithoutMessagesAt_congr (fun index below _ => ?_) nodes
  rw [removed_root_append_cons atRoot, isStopped_foldl_apply]

/-- Events in children remove nothing from the root. -/
theorem removed_traceAll_nil
    (isStopped : Bool)
    (naming : Naming)
    (place : Place)
    (start : Nat)
    (nodes : List Node) : removed isStopped (traceAll naming place start nodes) [] = false := by
  refine removed_eq_false (fun event present equal => ?_) isStopped
  obtain ⟨_, _, _, address_eq⟩ := address_of_mem_traceAll present
  simp [address_eq] at equal

theorem address_of_mem_callEvent?
    {naming : Naming}
    {isThrown : Bool}
    {call : Call}
    {event : Event}
    (present : event ∈ (callEvent? naming isThrown call).toList) : event.address = [] := by
  obtain ⟨found, _, rfl⟩ := Option.map_eq_some_iff.mp (Option.mem_toList.mp present)
  rfl

theorem address_of_mem_declarationEvent?
    {naming : Naming}
    {signature : Signature}
    {event : Event}
    (present : event ∈ (declarationEvent? naming signature).toList) : event.address = [] := by
  rw [Option.mem_toList, declarationEvent?] at present
  split at present
  · obtain rfl := Option.mem_some.mp present
    rfl
  · simp at present

end Extraction
end ErrorTemplates
