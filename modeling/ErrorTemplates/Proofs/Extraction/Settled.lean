import ErrorTemplates.Proofs.Extraction.Alike

/-!
# What harmless events leave

The tree that is left after harmless events, by recursion on the tree: no addresses are needed,
because nothing ends the removal of messages. Names, constants and spread arguments are left as
they are, and so is what a visit sees of them.
-/

namespace ErrorTemplates
namespace Extraction

open Program

mutual

/-- What is left of a node at a place after its harmless events. -/
def settled (naming : Naming) (place : Place) : Node -> Node
  | .identifier span name => .identifier span name
  | .string span raw value => .string span raw value
  | .sum span left right =>
      .sum span (settled naming .plain left) (settled naming .plain right)
  | .parens span inner => .parens span (settled naming place inner)
  | .spread span inner => .spread span (settled naming .plain inner)
  | .call span callee arguments =>
      if place = .operand then .call span callee (allSettled naming .wrapped arguments)
      else
        .call span (settled naming .plain callee)
          (if place = .plain ∧ (naming.match? callee arguments).isSome then
            withoutMessage (allSettled naming .plain arguments)
          else allSettled naming .plain arguments)
  | .construct span callee arguments =>
      if place = .operand then .construct span callee (allSettled naming .wrapped arguments)
      else .construct span (settled naming .plain callee) (allSettled naming .plain arguments)
  | .throwing span operand =>
      .throwing span
        (settled naming (if hidesError naming operand then .operand else .plain) operand)
  | .function span signature parameters body =>
      .function span signature (allSettled naming .plain parameters)
        (settled naming .plain body)
  | .other span shape children => .other span shape (allSettled naming .plain children)

/-- What is left of nodes at a place after their harmless events. -/
def allSettled (naming : Naming) (place : Place) : List Node -> List Node
  | [] => []
  | node :: rest => settled naming place node :: allSettled naming place rest

end

theorem allSettled_eq_map (naming : Naming) (place : Place) (nodes : List Node) :
    allSettled naming place nodes = nodes.map (settled naming place) := by
  induction nodes with
  | nil => rfl
  | cons node rest inductionHypothesis =>
      rw [allSettled, inductionHypothesis, List.map_cons]

/-! ## What stays -/

section
variable (naming : Naming) (place : Place)

theorem settled_of_constant
    {node : Node}
    {text : String}
    (constant : constant? node = some text) : settled naming place node = node := by
  fun_induction constant? node generalizing place text with
  | case1 => rfl
  | case2 span left right leftHypothesis rightHypothesis =>
      simp only [Option.bind_eq_bind, Option.bind_eq_some_iff] at constant
      obtain ⟨first, leftConstant, second, rightConstant, _⟩ := constant
      rw [settled, leftHypothesis _ leftConstant, rightHypothesis _ rightConstant]
  | case3 span inner innerHypothesis => rw [settled, innerHypothesis _ constant]
  | case4 => simp at constant

@[simp] theorem constant?_settled (node : Node) :
    constant? (settled naming place node) = constant? node := by
  fun_induction constant? node generalizing place with
  | case1 => rfl
  | case2 span left right leftHypothesis rightHypothesis =>
      rw [settled, constant?, leftHypothesis, rightHypothesis]
  | case3 span inner innerHypothesis => rw [settled, constant?_parens, innerHypothesis]
  | case4 node notString notSum notParens =>
      cases node with
      | string span raw value => exact absurd rfl (notString span raw value)
      | sum span left right => exact absurd rfl (notSum span left right)
      | parens span inner => exact absurd rfl (notParens span inner)
      | call | construct =>
          rw [settled]
          split <;> rfl
      | _ => rfl

theorem argumentView_settled (node : Node) :
    argumentView (settled naming place node) = argumentView node := by
  rw [argumentView, argumentView, constant?_settled]
  cases node with
  | call | construct =>
      rw [settled]
      split <;> rfl
  | _ => rfl

theorem argumentViews_allSettled (nodes : List Node) :
    (allSettled naming place nodes).map argumentView = nodes.map argumentView := by
  rw [allSettled_eq_map, List.map_map]
  exact List.map_congr_left fun node _ => argumentView_settled naming place node

@[simp] theorem isFactory_settled (node : Node) :
    naming.isFactory (settled naming place node) = naming.isFactory node := by
  cases node with
  | call | construct =>
      rw [settled]
      split <;> rfl
  | _ => rfl

@[simp] theorem bare_settled (node : Node) :
    (settled naming place node).bare = settled naming place node.bare := by
  fun_induction Node.bare node with
  | case1 span inner innerHypothesis => rw [settled, Node.bare_parens, innerHypothesis]
  | case2 node notParens =>
      cases node with
      | parens span inner => exact absurd rfl (notParens span inner)
      | call | construct =>
          rw [settled]
          split <;> rfl
      | _ => rfl

@[simp] theorem isErrorName_settled (node : Node) :
    isErrorName (settled naming place node) = isErrorName node := by
  rw [isErrorName, isErrorName, bare_settled]
  cases node.bare with
  | call | construct => by_cases isOperand : place = .operand <;> simp [settled, isOperand]
  | _ => rfl

end

/-! ## What harmless events remove -/

/-- None of the events is fatal. -/
def Harmless (events : List Event) : Prop := ∀ event ∈ events, event.isFatal = false

@[simp] theorem harmless_append_iff (first second : List Event) :
    Harmless (first ++ second) ↔ Harmless first ∧ Harmless second :=
  List.forall_mem_append

@[simp] theorem harmless_map_inChild_iff (index : Nat) (events : List Event) :
    Harmless (events.map (Event.inChild index)) ↔ Harmless events := by
  simp [Harmless]

theorem any_isFatal_of_harmless {events : List Event} (harmless : Harmless events) :
    events.any Event.isFatal = false :=
  List.any_eq_false.mpr fun event present => by simp [harmless event present]

/-- The harmless events of a node at a place leave the settled node. -/
def Settles (naming : Naming) (place : Place) (node : Node) : Prop :=
  Harmless (trace naming place node) ->
    withoutMessagesAt (removed false (trace naming place node)) node = settled naming place node

/-- Harmless events leave settled nodes if they do so in each of them. -/
theorem allWithoutMessagesAt_removed_traceAll
    {naming : Naming}
    {place : Place}
    {start : Nat}
    {nodes : List Node}
    (settles : ∀ node ∈ nodes, Settles naming place node)
    (harmless : Harmless (traceAll naming place start nodes)) :
    allWithoutMessagesAt (removed false (traceAll naming place start nodes)) start nodes =
      allSettled naming place nodes := by
  induction nodes generalizing start with
  | nil => rfl
  | cons node rest inductionHypothesis =>
      obtain ⟨nodeSettles, restSettle⟩ := List.forall_mem_cons.mp settles
      rw [traceAll, harmless_append_iff, harmless_map_inChild_iff] at harmless
      have elsewhere : ∀ event ∈ traceAll naming place (start + 1) rest, ∀ below,
          event.address ≠ start :: below := by
        intro event present below equal
        obtain ⟨index, _, later, address_eq⟩ := address_of_mem_traceAll present
        simp only [address_eq, List.cons.injEq] at equal
        omega
      have restSame := allWithoutMessagesAt_congr
        (fun index below (later : start + 1 ≤ index) =>
          removed_map_append_of_ne (Nat.ne_of_gt later) false (trace naming place node)
            (traceAll naming place (start + 1) rest) below) rest
      rw [any_isFatal_of_harmless harmless.1, Bool.or_false] at restSame
      rw [traceAll, allWithoutMessagesAt, inChild_removed_map_append elsewhere,
        nodeSettles harmless.1, restSame, inductionHypothesis restSettle harmless.2, allSettled]

/-- Harmless events at the root and in the children of a node leave settled children. -/
theorem allWithoutMessagesAt_removed_own_append
    {naming : Naming}
    {place : Place}
    {own : List Event}
    {children : List Node}
    (atRoot : ∀ event ∈ own, event.address = [])
    (settles : ∀ child ∈ children, Settles naming place child)
    (harmless : Harmless (own ++ traceAll naming place 0 children)) :
    allWithoutMessagesAt (removed false (own ++ traceAll naming place 0 children)) 0 children =
      allSettled naming place children := by
  rw [harmless_append_iff] at harmless
  rw [← allWithoutMessagesAt_removed_traceAll settles harmless.2]
  refine allWithoutMessagesAt_congr (fun index below _ => ?_) children
  rw [removed_root_append_cons atRoot, any_isFatal_of_harmless harmless.1, Bool.or_false]

/-- A call that makes an error loses its message by its own event unless it is thrown. -/
theorem removed_own_append_nil
    {naming : Naming}
    {isThrown : Bool}
    {call : Call}
    (harmless : Harmless (callEvent? naming isThrown call).toList)
    (place : Place)
    (nodes : List Node) :
    removed false ((callEvent? naming isThrown call).toList ++ traceAll naming place 0 nodes) [] =
      (!isThrown && (naming.match? call.callee call.arguments).isSome) := by
  rw [removed_append, removed_traceAll_nil, Bool.or_false]
  unfold callEvent? at harmless ⊢
  cases recognised : naming.match? call.callee call.arguments with
  | none => simp [Selection.none]
  | some found =>
      have notFatal := harmless (.makes { address := [], call, found } isThrown)
        (by simp [recognised])
      cases isThrown <;>
        simp [removed, removals, notFatal, Event.removal?, Event.losingCall?]

/-- A call settles if its parts do. As the operand of a throw it has its arguments in wrapped
places. -/
theorem settles_call
    {naming : Naming}
    {span : Span}
    {callee : Node}
    {arguments : List Node}
    (partsSettle : ∀ child ∈ callee :: arguments, ∀ place, Settles naming place child)
    (place : Place) : Settles naming place (.call span callee arguments) := by
  intro harmless
  by_cases isOperand : place = .operand
  · simp only [trace, isOperand, if_true] at harmless ⊢
    have arguments_eq := allWithoutMessagesAt_removed_traceAll
      (fun child present => partsSettle child (List.mem_cons_of_mem _ present) .wrapped) harmless
    simp only [withoutMessagesAt, settled, inChild_removed_traceAll Nat.zero_lt_one,
      withoutMessagesAt_none, removed_traceAll_nil, arguments_eq, if_true,
      Bool.false_eq_true, if_false]
  · let own := (callEvent? naming (place == .wrapped) { span, callee, arguments }).toList
    have traced : trace naming place (.call span callee arguments) =
        own ++ traceAll naming .plain 0 (callee :: arguments) := by
      simp only [trace, isOperand, if_false]
      rfl
    rw [traced] at harmless ⊢
    have children_eq := allWithoutMessagesAt_removed_own_append
      (fun _ present => address_of_mem_callEvent? present)
      (fun child present => partsSettle child present .plain) harmless
    have atRoot := removed_own_append_nil ((harmless_append_iff _ _).mp harmless).1 .plain
      (callee :: arguments)
    simp only [allWithoutMessagesAt, allSettled, List.cons.injEq] at children_eq
    simp only [withoutMessagesAt, settled, children_eq, isOperand, if_false, own, atRoot]
    cases place with
    | operand => exact absurd rfl isOperand
    | plain | wrapped => simp

/-- A construction settles if its parts do, like a call. -/
theorem settles_construct
    {naming : Naming}
    {span : Span}
    {callee : Node}
    {arguments : List Node}
    (partsSettle : ∀ child ∈ callee :: arguments, ∀ place, Settles naming place child)
    (place : Place) : Settles naming place (.construct span callee arguments) := by
  intro harmless
  by_cases isOperand : place = .operand
  · simp only [trace, isOperand, if_true] at harmless ⊢
    have arguments_eq := allWithoutMessagesAt_removed_traceAll
      (fun child present => partsSettle child (List.mem_cons_of_mem _ present) .wrapped) harmless
    simp only [withoutMessagesAt, settled, inChild_removed_traceAll Nat.zero_lt_one,
      withoutMessagesAt_none, arguments_eq, if_true]
  · have traced : trace naming place (.construct span callee arguments) =
        traceAll naming .plain 0 (callee :: arguments) := by
      simp only [trace, isOperand, if_false]
      rfl
    rw [traced] at harmless ⊢
    have children_eq := allWithoutMessagesAt_removed_traceAll
      (fun child present => partsSettle child present .plain) harmless
    simp only [allWithoutMessagesAt, allSettled, List.cons.injEq] at children_eq
    simp only [withoutMessagesAt, settled, isOperand, if_false, children_eq]

/-- A function settles if its parameters and its body do. -/
theorem settles_function
    {naming : Naming}
    {span : Span}
    {signature : Signature}
    {parameters : List Node}
    {body : Node}
    (partsSettle : ∀ child ∈ parameters ++ [body], Settles naming .plain child)
    (place : Place) : Settles naming place (.function span signature parameters body) := by
  intro harmless
  have traced : trace naming place (.function span signature parameters body) =
      (declarationEvent? naming signature).toList ++
        traceAll naming .plain 0 (parameters ++ [body]) := by
    simp [trace, traceAll_append, traceAll]
  rw [traced] at harmless ⊢
  have children_eq := allWithoutMessagesAt_removed_own_append
    (fun _ present => address_of_mem_declarationEvent? present) partsSettle harmless
  rw [allWithoutMessagesAt_append, allSettled_eq_map, List.map_append,
    ← allSettled_eq_map] at children_eq
  obtain ⟨parameters_eq, body_eq⟩ := List.append_inj' children_eq rfl
  simp only [allWithoutMessagesAt, List.map_cons, List.map_nil, List.cons.injEq, and_true,
    Nat.zero_add] at body_eq
  simp only [withoutMessagesAt, settled, parameters_eq, body_eq]

theorem settles (naming : Naming) (place : Place) (node : Node) : Settles naming place node := by
  induction node using Node.induction_on_children generalizing place with
  | step node inductionHypothesis =>
      intro harmless
      have plainly (children : List Node) (same : children = node.children) :
          ∀ child ∈ children, Settles naming .plain child :=
        fun child present => inductionHypothesis child (same ▸ present) .plain
      cases node with
      | identifier | string => rfl
      | sum span left right =>
          have traced : trace naming place (.sum span left right) =
              traceAll naming .plain 0 [left, right] := by
            simp [traceAll, trace]
          rw [traced] at harmless ⊢
          have children_eq :=
            allWithoutMessagesAt_removed_traceAll (plainly [left, right] rfl) harmless
          simp only [allWithoutMessagesAt, allSettled, List.cons.injEq] at children_eq
          simp only [withoutMessagesAt, settled, children_eq]
      | parens span inner =>
          rw [trace, harmless_map_inChild_iff] at harmless
          simp only [trace, withoutMessagesAt, inChild_removed_map, settled,
            inductionHypothesis inner (by simp [Node.children]) place harmless]
      | spread span inner =>
          rw [trace, harmless_map_inChild_iff] at harmless
          simp only [trace, withoutMessagesAt, inChild_removed_map, settled,
            inductionHypothesis inner (by simp [Node.children]) .plain harmless]
      | throwing span operand =>
          rw [trace, harmless_map_inChild_iff] at harmless
          simp only [trace, withoutMessagesAt, inChild_removed_map, settled,
            inductionHypothesis operand (by simp [Node.children]) _ harmless]
      | call span callee arguments => exact settles_call inductionHypothesis place harmless
      | construct span callee arguments =>
          exact settles_construct inductionHypothesis place harmless
      | function span signature parameters body =>
          exact settles_function (plainly (parameters ++ [body]) rfl) place harmless
      | other span shape children =>
          rw [trace] at harmless
          have children_eq :=
            allWithoutMessagesAt_removed_traceAll (plainly children rfl) harmless
          simp only [trace, withoutMessagesAt, settled, children_eq]

end Extraction
end ErrorTemplates
