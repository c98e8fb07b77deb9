import ErrorTemplates.Extraction.Visit
import ErrorTemplates.Proofs.Extraction.Recognition
import ErrorTemplates.Proofs.Tree.Address

/-!
# Wrapped calls

A call is wrapped when it is the one that the operand of some throw statement makes another
error from. Which statement that is follows from the address of the call alone.
-/

namespace ErrorTemplates
namespace Program
namespace Node

/-- The way from a node through the parentheses around it. -/
def bareAddress : Node -> Address
  | .parens _ inner => 0 :: inner.bareAddress
  | _ => []

theorem subtree?_bareAddress (node : Node) : node.subtree? node.bareAddress = some node.bare := by
  fun_induction bareAddress node with
  | case1 span inner innerHypothesis =>
      rw [subtree?_cons, subtreeAmong?_eq_some_iff]
      exact ⟨inner, rfl, innerHypothesis⟩
  | case2 node notParens =>
      cases node with
      | parens span inner => exact absurd rfl (notParens span inner)
      | _ => rfl

section
variable {node : Node} (notParens : ∀ span inner, node ≠ .parens span inner)
include notParens

theorem bare_eq_self : node.bare = node := by
  cases node with
  | parens span inner => exact absurd rfl (notParens span inner)
  | _ => rfl

theorem bareAddress_eq_nil : node.bareAddress = [] := by
  cases node with
  | parens span inner => exact absurd rfl (notParens span inner)
  | _ => rfl

end

end Node
end Program

namespace Extraction

open Program

/-- The way from an operand to the call from whose result it makes a general error. -/
def wrappedAddress? (operand : Node) : Option Address :=
  match wrappedCall? operand, operand.bare.children with
  | some _, [_, argument] => some (operand.bareAddress ++ 1 :: argument.bareAddress)
  | _, _ => none

theorem soleCall?_eq_some_iff (arguments : List Node) (call : Call) :
    soleCall? arguments = some call ↔
      ∃ argument, arguments = [argument] ∧
        argument.bare = .call call.span call.callee call.arguments := by
  obtain ⟨span, callee, inner⟩ := call
  constructor
  · intro found
    unfold soleCall? at found
    split at found
    · next argument =>
        split at found
        · next bare_eq =>
            cases found
            exact ⟨argument, rfl, bare_eq⟩
        · simp at found
    · simp at found
  · rintro ⟨argument, rfl, bare_eq⟩
    simp [soleCall?, bare_eq]

/-- What makes a general error from a call is a call or a construction of that error whose
only argument is the call, apart from parentheses. -/
theorem exists_of_wrappedCall?_eq_some
    {operand : Node}
    {call : Call}
    (wraps : wrappedCall? operand = some call) :
    ∃ span callee argument,
      (operand.bare = .call span callee [argument] ∨
        operand.bare = .construct span callee [argument]) ∧
      isErrorName callee = true ∧
      argument.bare = .call call.span call.callee call.arguments := by
  unfold wrappedCall? at wraps
  split at wraps
  · next span callee arguments bare_eq =>
      split at wraps
      · next isError =>
          obtain ⟨argument, rfl, argument_eq⟩ := (soleCall?_eq_some_iff _ _).mp wraps
          exact ⟨span, callee, argument, .inr bare_eq, isError, argument_eq⟩
      · simp at wraps
  · next span callee arguments bare_eq =>
      split at wraps
      · next isError =>
          obtain ⟨argument, rfl, argument_eq⟩ := (soleCall?_eq_some_iff _ _).mp wraps
          exact ⟨span, callee, argument, .inl bare_eq, isError, argument_eq⟩
      · simp at wraps
  · simp at wraps

/-- The address of a wrapped call leads to the call. -/
theorem exists_wrappedAddress?
    {operand : Node}
    {call : Call}
    (wraps : wrappedCall? operand = some call) :
    ∃ address, wrappedAddress? operand = some address ∧
      operand.subtree? address = some (.call call.span call.callee call.arguments) := by
  obtain ⟨span, callee, argument, outer, _, argument_eq⟩ := exists_of_wrappedCall?_eq_some wraps
  have children_eq : operand.bare.children = [callee, argument] := by
    rcases outer with bare_eq | bare_eq <;> rw [bare_eq] <;> rfl
  refine ⟨operand.bareAddress ++ 1 :: argument.bareAddress, ?_, ?_⟩
  · simp [wrappedAddress?, wraps, children_eq]
  · rw [Node.subtree?_append, Node.subtree?_bareAddress, Option.bind_some, Node.subtree?_cons,
      subtreeAmong?_eq_some_iff]
    refine ⟨argument, by simp [children_eq], ?_⟩
    rw [Node.subtree?_bareAddress, argument_eq]

/-- An operand with an address of a wrapped call has a wrapped call. -/
theorem exists_wrappedCall?
    {operand : Node}
    {address : Address}
    (wraps : wrappedAddress? operand = some address) :
    ∃ call, wrappedCall? operand = some call := by
  cases found : wrappedCall? operand with
  | none => simp [wrappedAddress?, found] at wraps
  | some call => exact ⟨call, rfl⟩

/-- Parentheses around an operand lengthen the way to the wrapped call. -/
theorem wrappedAddress?_parens (span : Span) (inner : Node) :
    wrappedAddress? (.parens span inner) = (wrappedAddress? inner).map (0 :: ·) := by
  have sameCall : wrappedCall? (.parens span inner) = wrappedCall? inner := rfl
  unfold wrappedAddress?
  rw [sameCall, Node.bare_parens]
  split <;> rfl

/-! ## In a program -/

/-- The call at an address of a node is wrapped in a throw statement of that node. -/
def WrappedIn (node : Node) (address : Address) : Prop :=
  ∃ above span operand below,
    node.subtree? above = some (.throwing span operand) ∧
      wrappedAddress? operand = some below ∧ address = above ++ 0 :: below

theorem not_wrappedIn_nil (node : Node) : ¬ WrappedIn node [] := by
  rintro ⟨above, _, _, below, _, _, address_eq⟩
  exact absurd address_eq.symm (List.append_ne_nil_of_right_ne_nil above (List.cons_ne_nil 0 below))

/-- A call below a child is wrapped in that child or in the node itself, which then is the
throw statement. -/
theorem wrappedIn_cons_iff
    {node child : Node}
    {index : Nat}
    (found : node.children[index]? = some child)
    (below : Address) :
    WrappedIn node (index :: below) ↔
      WrappedIn child below ∨
        index = 0 ∧ ∃ span operand, node = .throwing span operand ∧
          wrappedAddress? operand = some below := by
  constructor
  · rintro ⟨above, span, operand, inner, present, wraps, address_eq⟩
    cases above with
    | nil =>
        obtain ⟨rfl, rfl⟩ := List.cons.inj address_eq
        obtain rfl : node = .throwing span operand := Option.some.inj present
        exact .inr ⟨rfl, span, operand, rfl, wraps⟩
    | cons number above =>
        obtain ⟨rfl, rfl⟩ := List.cons.inj address_eq
        rw [Node.subtree?_cons, subtreeAmong?_eq_some_iff] at present
        obtain ⟨same, known, present⟩ := present
        obtain rfl : child = same := Option.some.inj (found.symm.trans known)
        exact .inl ⟨above, span, operand, inner, present, wraps, rfl⟩
  · rintro (⟨above, span, operand, inner, present, wraps, rfl⟩ |
      ⟨rfl, span, operand, rfl, wraps⟩)
    · refine ⟨index :: above, span, operand, inner, ?_, wraps, rfl⟩
      rw [Node.subtree?_cons, subtreeAmong?_eq_some_iff]
      exact ⟨child, found, present⟩
    · exact ⟨[], span, operand, below, rfl, wraps, rfl⟩

/-- The call at an address of a program is wrapped in a throw statement. -/
def Wrapped (program : Program) (address : Address) : Prop :=
  ∃ above span operand below,
    program.subtree? above = some (.throwing span operand) ∧
      wrappedAddress? operand = some below ∧ address = above ++ 0 :: below

/-- A call in a program is wrapped in one of the items. -/
theorem wrapped_cons_iff
    {program : Program}
    {item : Node}
    {index : Nat}
    (found : program.items[index]? = some item)
    (below : Address) : Wrapped program (index :: below) ↔ WrappedIn item below := by
  constructor
  · rintro ⟨above, span, operand, inner, present, wraps, address_eq⟩
    cases above with
    | nil => simp [Program.subtree?] at present
    | cons number above =>
        obtain ⟨rfl, rfl⟩ := List.cons.inj address_eq
        obtain ⟨same, known, present⟩ := (subtreeAmong?_eq_some_iff _ _ _ _).mp present
        obtain rfl : item = same := Option.some.inj (found.symm.trans known)
        exact ⟨above, span, operand, inner, present, wraps, rfl⟩
  · rintro ⟨above, span, operand, inner, present, wraps, rfl⟩
    refine ⟨index :: above, span, operand, inner, ?_, wraps, rfl⟩
    exact (subtreeAmong?_eq_some_iff _ _ _ _).mpr ⟨item, found, present⟩

/-- The addresses of the wrapped calls of a program. -/
def wrappedAddresses (program : Program) : List Address :=
  program.occurrences.filterMap fun occurrence =>
    match occurrence.node with
    | .throwing _ operand =>
        (wrappedAddress? operand).map fun below => occurrence.address ++ 0 :: below
    | _ => none

theorem mem_wrappedAddresses_iff (program : Program) (address : Address) :
    address ∈ wrappedAddresses program ↔ Wrapped program address := by
  simp only [wrappedAddresses, List.mem_filterMap, Program.mem_occurrences_iff]
  constructor
  · rintro ⟨⟨above, node⟩, present, wraps⟩
    cases node with
    | throwing span operand =>
        obtain ⟨below, found, address_eq⟩ := Option.map_eq_some_iff.mp wraps
        exact ⟨above, span, operand, below, present, found, address_eq.symm⟩
    | _ => simp at wraps
  · rintro ⟨above, span, operand, below, present, found, rfl⟩
    exact ⟨{ address := above, node := .throwing span operand }, present, by simp [found]⟩

instance (program : Program) (address : Address) : Decidable (Wrapped program address) :=
  decidable_of_iff _ (mem_wrappedAddresses_iff program address)

end Extraction
end ErrorTemplates
