import ErrorTemplates.Proofs.Tree.Address

/-!
# Changing trees

A tree is changed in its children or at an address. Everything else about it stays.
-/

namespace ErrorTemplates
namespace Program

namespace Node

/-- A node whose children are changed, each by a function of its number. -/
def mapChildren (change : Nat -> Node -> Node) : Node -> Node
  | .identifier span name => .identifier span name
  | .string span raw value => .string span raw value
  | .sum span left right => .sum span (change 0 left) (change 1 right)
  | .parens span inner => .parens span (change 0 inner)
  | .spread span inner => .spread span (change 0 inner)
  | .call span callee arguments =>
      .call span (change 0 callee) (arguments.mapIdx fun index => change (index + 1))
  | .construct span callee arguments =>
      .construct span (change 0 callee) (arguments.mapIdx fun index => change (index + 1))
  | .throwing span operand => .throwing span (change 0 operand)
  | .function span signature parameters body =>
      .function span signature (parameters.mapIdx change) (change parameters.length body)
  | .other span shape children => .other span shape (children.mapIdx change)

@[simp] theorem children_mapChildren (change : Nat -> Node -> Node) (node : Node) :
    (node.mapChildren change).children = node.children.mapIdx change := by
  cases node with
  | function => simp [mapChildren, children, List.mapIdx_append]
  | _ => simp [mapChildren, children, List.mapIdx_cons]

/-- Changing the children twice changes each of them twice. -/
theorem mapChildren_mapChildren (first second : Nat -> Node -> Node) (node : Node) :
    (node.mapChildren first).mapChildren second =
      node.mapChildren fun index child => second index (first index child) := by
  cases node <;> simp [mapChildren, List.mapIdx_mapIdx, Function.comp_def]

/-- Only what becomes of the children of a node matters. -/
theorem mapChildren_congr
    {first second : Nat -> Node -> Node}
    (node : Node)
    (agree : ∀ index child, node.children[index]? = some child ->
      first index child = second index child) :
    node.mapChildren first = node.mapChildren second := by
  have among (shift : Nat) (nodes : List Node)
      (within : ∀ index child, nodes[index]? = some child ->
        first (index + shift) child = second (index + shift) child) :
      (nodes.mapIdx fun index => first (index + shift)) =
        nodes.mapIdx fun index => second (index + shift) :=
    List.mapIdx_eq_mapIdx_iff.mpr fun index inBounds =>
      within index nodes[index] (List.getElem?_eq_getElem inBounds)
  cases node with
  | identifier | string => rfl
  | sum _ left right =>
      simp only [mapChildren, agree 0 left rfl, agree 1 right rfl]
  | parens _ inner | spread _ inner | throwing _ inner =>
      simp only [mapChildren, agree 0 inner rfl]
  | call _ callee arguments | construct _ callee arguments =>
      have argumentsAgree := among 1 arguments fun index child found =>
        agree (index + 1) child found
      simp only [mapChildren, agree 0 callee rfl, argumentsAgree]
  | function _ _ parameters body =>
      have parametersAgree := among 0 parameters fun index child found =>
        agree index child (by
          obtain ⟨inBounds, _⟩ := List.getElem?_eq_some_iff.mp found
          rw [children, List.getElem?_append_left inBounds, found])
      have bodyAgree := agree parameters.length body (by simp [children])
      simp only [Nat.add_zero] at parametersAgree
      simp only [mapChildren, bodyAgree, parametersAgree]
  | other _ _ nodes =>
      have childrenAgree := among 0 nodes agree
      simp only [Nat.add_zero] at childrenAgree
      simp only [mapChildren, childrenAgree]

/-- A node whose children all stay is the same node. -/
theorem mapChildren_eq_self
    {change : Nat -> Node -> Node}
    (node : Node)
    (kept : ∀ index child, node.children[index]? = some child -> change index child = child) :
    node.mapChildren change = node := by
  have same (nodes : List Node) : (nodes.mapIdx fun _ child => child) = nodes :=
    List.mapIdx_eq_iff.mpr fun index => by simp
  refine (mapChildren_congr node kept).trans ?_
  cases node <;> simp only [mapChildren, same]

/-- A tree with another tree in the place of the one at an address. -/
def replaceAt : Node -> Address -> Node -> Node
  | _, [], replacement => replacement
  | node, index :: below, replacement =>
      node.mapChildren fun number child =>
        if number = index then child.replaceAt below replacement else child

end Node

/-- A program with a tree in the place of the one at an address. -/
def replaceAt (program : Program) (address : Address) (replacement : Node) : Program :=
  match address with
  | [] => program
  | index :: below =>
      { program with
        items := program.items.mapIdx fun number item =>
          if number = index then item.replaceAt below replacement else item }

end Program
end ErrorTemplates
