import ErrorTemplates.Proofs.Extraction.Declarations
import ErrorTemplates.Proofs.Extraction.Parentheses

/-!
# Runs over programs with other parentheses

The progress of a visit does not depend on the parentheses in throw statements, and neither does
the replacement of a declaration. A run over a program with other parentheses thus ends in the
same way, and leaves what the run over the program leaves, with the same other parentheses.
-/

namespace ErrorTemplates
namespace Extraction

open Program

/-! ## Declarations and parentheses -/

section
variable {parens? : Span -> Option Parens}

theorem spliceCount_enclosed (name : String) (spans : List Span) (node : Node) :
    spliceCount name (enclosed spans node) = spliceCount name node := by
  induction spans with
  | nil => rfl
  | cons span rest inductionHypothesis => exact inductionHypothesis

theorem spliceCount_bare (name : String) (node : Node) :
    spliceCount name node.bare = spliceCount name node := by
  rw [← spliceCount_enclosed name (parensOf node) node.bare, enclosed_parensOf]

theorem splice_enclosed
    (name : String)
    (replacement : Declaration)
    (spans : List Span)
    (node : Node) :
    splice name replacement (enclosed spans node) =
      enclosed spans (splice name replacement node) := by
  induction spans with
  | nil => rfl
  | cons span rest inductionHypothesis =>
      exact congrArg (Node.parens span) inductionHypothesis

theorem bare_splice (name : String) (replacement : Declaration) (node : Node) :
    (splice name replacement node).bare = splice name replacement node.bare := by
  fun_induction Node.bare node with
  | case1 span inner innerHypothesis => exact innerHypothesis
  | case2 node notParens =>
      cases node with
      | parens span inner => exact absurd rfl (notParens span inner)
      | function span signature parameters body =>
          rw [splice]
          split <;> rfl
      | _ => rfl

/-- Parentheses in a throw statement hide no declaration. -/
theorem spliceCount_around (name : String) (parens : Parens) (operand : Node) :
    spliceCount name (parens.around operand) = spliceCount name operand := by
  unfold Parens.around
  split
  · next isBare =>
    rw [← spliceCount_bare name operand, isBare]
    simp [spliceCount_enclosed, spliceCount, spliceCountAll, spliceCount_bare]
  · next isBare =>
    rw [← spliceCount_bare name operand, isBare]
    simp [spliceCount_enclosed, spliceCount, spliceCountAll, spliceCount_bare]
  · rfl

theorem splice_around
    (name : String)
    (replacement : Declaration)
    (parens : Parens)
    (operand : Node) :
    splice name replacement (parens.around operand) =
      parens.around (splice name replacement operand) := by
  unfold Parens.around
  rw [bare_splice]
  cases isBare : operand.bare with
  | call span callee arguments | construct span callee arguments =>
      rcases arguments with _ | ⟨argument, _ | ⟨second, rest⟩⟩ <;>
        simp [splice, spliceAll, splice_enclosed, bare_splice]
  | function span signature parameters body =>
      by_cases declared : signature.name = name <;> simp [splice, declared, Declaration.toNode]
  | _ => rfl

theorem spliceCount_reparenthesized (name : String) (node : Node) :
    spliceCount name (reparenthesized parens? node) = spliceCount name node := by
  have among {nodes : List Node} (within : ∀ child ∈ nodes,
      spliceCount name (reparenthesized parens? child) = spliceCount name child) :
      spliceCountAll name (allReparenthesized parens? nodes) = spliceCountAll name nodes := by
    induction nodes with
    | nil => rfl
    | cons node rest inductionHypothesis =>
        obtain ⟨node_eq, rest_eq⟩ := List.forall_mem_cons.mp within
        rw [allReparenthesized, spliceCountAll, spliceCountAll, node_eq,
          inductionHypothesis rest_eq]
  induction node using Node.induction_on_children with
  | step node inductionHypothesis =>
      cases node with
      | identifier | string => rfl
      | sum span left right =>
          have left_eq := inductionHypothesis left (by simp [Node.children])
          have right_eq := inductionHypothesis right (by simp [Node.children])
          simp only [reparenthesized, spliceCount, left_eq, right_eq]
      | parens span inner | spread span inner =>
          exact inductionHypothesis inner (by simp [Node.children])
      | throwing span operand =>
          have operand_eq := inductionHypothesis operand (by simp [Node.children])
          simp only [reparenthesized, spliceCount]
          split <;> simp only [spliceCount_around, operand_eq]
      | call span callee arguments | construct span callee arguments =>
          obtain ⟨callee_eq, arguments_eq⟩ := List.forall_mem_cons.mp inductionHypothesis
          simp only [reparenthesized, spliceCount, callee_eq, among arguments_eq]
      | function span signature parameters body =>
          obtain ⟨parameters_eq, body_eq⟩ := List.forall_mem_append.mp inductionHypothesis
          simp only [reparenthesized, spliceCount, among parameters_eq,
            body_eq body (List.mem_singleton.mpr rfl)]
      | other span shape children => exact among inductionHypothesis

/-- No throw statement in a tree is given other parentheses. -/
def Skips (parens? : Span -> Option Parens) (node : Node) : Prop :=
  ∀ address span operand, node.subtree? address = some (.throwing span operand) ->
    parens? span = none

theorem reparenthesized_eq_mapChildren
    {node : Node}
    (kept : ∀ span operand, node = .throwing span operand -> parens? span = none) :
    reparenthesized parens? node = node.mapChildren fun _ => reparenthesized parens? := by
  have same (nodes : List Node) :
      allReparenthesized parens? nodes = nodes.mapIdx fun _ => reparenthesized parens? := by
    rw [allReparenthesized_eq_map]
    exact (List.mapIdx_eq_iff.mpr fun index => by simp).symm
  cases node with
  | throwing span operand => simp only [reparenthesized, Node.mapChildren, kept span operand rfl]
  | _ => simp only [reparenthesized, Node.mapChildren, same]

theorem reparenthesized_of_skips {node : Node} (skips : Skips parens? node) :
    reparenthesized parens? node = node := by
  induction node using Node.induction_on_children with
  | step node inductionHypothesis =>
      rw [reparenthesized_eq_mapChildren]
      · refine Node.mapChildren_eq_self node fun index child found => ?_
        refine inductionHypothesis child (List.mem_of_getElem? found) ?_
        intro address span operand isThrow
        refine skips (index :: address) span operand ?_
        rw [Node.subtree?_cons, subtreeAmong?_eq_some_iff]
        exact ⟨child, found, isThrow⟩
      · rintro span operand rfl
        exact skips [] span operand rfl

theorem splice_reparenthesized
    {replacement : Declaration}
    (skips : Skips parens? replacement.toNode)
    (name : String)
    (node : Node) :
    splice name replacement (reparenthesized parens? node) =
      reparenthesized parens? (splice name replacement node) := by
  have among {nodes : List Node} (within : ∀ child ∈ nodes,
      splice name replacement (reparenthesized parens? child) =
        reparenthesized parens? (splice name replacement child)) :
      spliceAll name replacement (allReparenthesized parens? nodes) =
        allReparenthesized parens? (spliceAll name replacement nodes) := by
    induction nodes with
    | nil => rfl
    | cons node rest inductionHypothesis =>
        obtain ⟨node_eq, rest_eq⟩ := List.forall_mem_cons.mp within
        simp only [allReparenthesized, spliceAll, node_eq, inductionHypothesis rest_eq]
  induction node using Node.induction_on_children with
  | step node inductionHypothesis =>
      cases node with
      | identifier | string => rfl
      | sum span left right =>
          have left_eq := inductionHypothesis left (by simp [Node.children])
          have right_eq := inductionHypothesis right (by simp [Node.children])
          simp only [reparenthesized, splice, left_eq, right_eq]
      | parens span inner | spread span inner =>
          have inner_eq := inductionHypothesis inner (by simp [Node.children])
          simp only [reparenthesized, splice, inner_eq]
      | throwing span operand =>
          have operand_eq := inductionHypothesis operand (by simp [Node.children])
          simp only [reparenthesized, splice]
          split <;> simp only [splice_around, operand_eq]
      | call span callee arguments | construct span callee arguments =>
          obtain ⟨callee_eq, arguments_eq⟩ := List.forall_mem_cons.mp inductionHypothesis
          simp only [reparenthesized, splice, callee_eq, among arguments_eq]
      | function span signature parameters body =>
          obtain ⟨parameters_eq, body_eq⟩ := List.forall_mem_append.mp inductionHypothesis
          by_cases declared : signature.name = name
          · simp only [reparenthesized, splice, declared, if_true]
            exact (reparenthesized_of_skips skips).symm
          · simp only [reparenthesized, splice, declared, if_false, among parameters_eq,
              body_eq body (List.mem_singleton.mpr rfl)]
      | other span shape children =>
          have children_eq := @among children inductionHypothesis
          simp only [reparenthesized, splice, children_eq]

/-! ## Runs -/

theorem visitProgram_reparenthesized
    {program : Program}
    (fits : Fits parens? program.subtree?)
    (setup : Setup)
    (sources : Sources) :
    setup.visitProgram sources (programReparenthesized parens? program) =
      let visited := setup.visitProgram sources program
      (programReparenthesized parens? visited.1, visited.2) := by
  have visited := visitAll_reparenthesized
    fun item (present : item ∈ program.items) =>
      visit_reparenthesized (fits.item present) setup.naming sources .plain
  simp only [Setup.visitProgram, programReparenthesized, visited, StateT.run_map]
  rfl

theorem complete_reparenthesized
    {setup : Setup}
    (skips : ∀ replacement ∈ setup.replacement,
      Skips parens? replacement.declaration.toNode)
    (sources : Sources)
    (program : Program)
    (progress : Progress) :
    setup.complete sources (programReparenthesized parens? program) progress =
      let completed := setup.complete sources program progress
      (completed.1, programReparenthesized parens? completed.2) := by
  have count_eq (name : String) (nodes : List Node) :
      spliceCountAll name (allReparenthesized parens? nodes) = spliceCountAll name nodes := by
    induction nodes with
    | nil => rfl
    | cons node rest inductionHypothesis =>
        rw [allReparenthesized, spliceCountAll, spliceCountAll, inductionHypothesis,
          spliceCount_reparenthesized]
  unfold Setup.complete
  split
  · next replacement planned given =>
    have spliced (nodes : List Node) :
        spliceAll setup.naming.factory replacement.declaration (allReparenthesized parens? nodes) =
          allReparenthesized parens?
            (spliceAll setup.naming.factory replacement.declaration nodes) := by
      simp [spliceAll_eq_map, allReparenthesized_eq_map,
        splice_reparenthesized (skips replacement given)]
    simp only [spliceProgram, programReparenthesized, spliced, count_eq]
  · rfl
  · rfl

/-- A run over a program in which throw statements have other parentheses ends in the same way
and leaves the same program, in which they have the same other parentheses. -/
theorem runOn_reparenthesized
    {setup : Setup}
    {program : Program}
    (fits : Fits parens? program.subtree?)
    (skips : ∀ replacement ∈ setup.replacement,
      Skips parens? replacement.declaration.toNode)
    (sources : Sources) :
    setup.runOn sources (programReparenthesized parens? program) =
      let ended := setup.runOn sources program
      (ended.1, programReparenthesized parens? ended.2) := by
  simp only [Setup.runOn, visitProgram_reparenthesized fits]
  split
  · rfl
  · exact complete_reparenthesized skips sources _ _

end

end Extraction
end ErrorTemplates
