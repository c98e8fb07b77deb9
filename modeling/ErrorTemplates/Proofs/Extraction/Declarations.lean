import ErrorTemplates.Extraction.Definition
import ErrorTemplates.Proofs.Tree.Change

/-!
# Replacing declarations

All occurrences of declarations of a name, also of those inside of others. Where there is
exactly one, replacing every declaration of the name is replacing the tree at its address.
-/

namespace ErrorTemplates
namespace Extraction

open Program

/-- The node declares a function of a name. -/
def declares (name : String) : Node -> Bool
  | .function _ signature _ _ => signature.name == name
  | _ => false

/-- The declarations of a name in a tree, in the order of the visit. -/
def declarationsIn (name : String) (node : Node) : List Occurrence :=
  node.occurrences.filter fun occurrence => declares name occurrence.node

/-- The declarations of a name in trees that are numbered from a start. -/
def declarationsFrom (name : String) (start : Nat) (nodes : List Node) : List Occurrence :=
  (occurrencesFrom start nodes).filter fun occurrence => declares name occurrence.node

/-- The declarations of a name in a program, in the order of the visit. -/
def declarations (name : String) (program : Program) : List Occurrence :=
  declarationsFrom name 0 program.items

@[simp] theorem declarationsFrom_nil (name : String) (start : Nat) :
    declarationsFrom name start [] = [] := rfl

theorem declarationsFrom_cons
    (name : String)
    (start : Nat)
    (node : Node)
    (rest : List Node) :
    declarationsFrom name start (node :: rest) =
      (declarationsIn name node).map (Occurrence.inChild start) ++
        declarationsFrom name (start + 1) rest := by
  rw [declarationsFrom, occurrencesFrom, List.filter_append, List.filter_map]
  rfl

theorem declarationsIn_eq (name : String) (node : Node) :
    declarationsIn name node =
      (if declares name node then [{ address := [], node }] else []) ++
        declarationsFrom name 0 node.children := by
  rw [declarationsIn, Node.occurrences_eq, List.filter_cons, declarationsFrom]
  cases declares name node <;> rfl

theorem declarationsIn_of_declares_eq_false
    {name : String}
    {node : Node}
    (declaresOther : declares name node = false) :
    declarationsIn name node = declarationsFrom name 0 node.children := by
  rw [declarationsIn_eq, declaresOther, if_neg Bool.false_ne_true, List.nil_append]

theorem declarationsFrom_eq_nil_iff (name : String) (start : Nat) (nodes : List Node) :
    declarationsFrom name start nodes = [] ↔ ∀ node ∈ nodes, declarationsIn name node = [] := by
  induction nodes generalizing start with
  | nil => simp
  | cons node rest inductionHypothesis =>
      rw [declarationsFrom_cons, List.append_eq_nil_iff, List.map_eq_nil_iff,
        inductionHypothesis, List.forall_mem_cons]

/-- Where there is one declaration in several trees, it is in one of them. -/
theorem exists_of_declarationsFrom_eq_singleton
    {name : String}
    {start : Nat}
    {nodes : List Node}
    {only : Occurrence}
    (single : declarationsFrom name start nodes = [only]) :
    ∃ index child inner, nodes[index]? = some child ∧
      declarationsIn name child = [inner] ∧ only = inner.inChild (start + index) ∧
        ∀ other node, nodes[other]? = some node -> other ≠ index ->
          declarationsIn name node = [] := by
  induction nodes generalizing start with
  | nil => simp at single
  | cons node rest inductionHypothesis =>
      rw [declarationsFrom_cons, List.append_eq_singleton_iff] at single
      rcases single with ⟨nodeNone, restOne⟩ | ⟨nodeOne, restNone⟩
      · obtain ⟨index, child, inner, found, one, only_eq, others⟩ := inductionHypothesis restOne
        refine ⟨index + 1, child, inner, found, one, ?_, ?_⟩
        · rw [only_eq, Nat.add_assoc, Nat.add_comm 1]
        · intro other otherNode otherFound different
          cases other with
          | zero =>
              obtain rfl : node = otherNode := by simpa using otherFound
              exact List.map_eq_nil_iff.mp nodeNone
          | succ other =>
              exact others other otherNode (by simpa using otherFound) (by omega)
      · obtain ⟨inner, one, only_eq⟩ := List.map_eq_singleton_iff.mp nodeOne
        refine ⟨0, node, inner, rfl, one, only_eq.symm, ?_⟩
        intro other otherNode otherFound different
        cases other with
        | zero => exact absurd rfl different
        | succ other =>
            exact (declarationsFrom_eq_nil_iff name _ rest).mp restNone otherNode
              (List.mem_of_getElem? (by simpa using otherFound))

/-! ## Replacing all declarations -/

theorem spliceAll_eq_map (name : String) (replacement : Declaration) (nodes : List Node) :
    spliceAll name replacement nodes = nodes.map (splice name replacement) := by
  induction nodes with
  | nil => rfl
  | cons node rest inductionHypothesis => rw [spliceAll, inductionHypothesis, List.map_cons]

theorem splice_of_declares
    {name : String}
    {node : Node}
    (isDeclared : declares name node = true)
    (replacement : Declaration) : splice name replacement node = replacement.toNode := by
  cases node with
  | function span signature parameters body =>
      rw [splice, if_pos (beq_iff_eq.mp isDeclared)]
  | _ => simp [declares] at isDeclared

theorem splice_eq_mapChildren
    {name : String}
    {node : Node}
    (declaresOther : declares name node = false)
    (replacement : Declaration) :
    splice name replacement node = node.mapChildren fun _ => splice name replacement := by
  have same (nodes : List Node) :
      spliceAll name replacement nodes = nodes.mapIdx fun _ => splice name replacement := by
    rw [spliceAll_eq_map]
    exact (List.mapIdx_eq_iff.mpr fun index => by simp).symm
  cases node with
  | function span signature parameters body =>
      have different : signature.name ≠ name := by simpa [declares] using declaresOther
      simp only [splice, if_neg different, Node.mapChildren, same]
  | _ => simp only [splice, Node.mapChildren, same]

/-- Nothing is replaced where nothing is declared. -/
theorem splice_eq_self
    {name : String}
    {node : Node}
    (noneDeclared : declarationsIn name node = [])
    (replacement : Declaration) : splice name replacement node = node := by
  induction node using Node.induction_on_children with
  | step node inductionHypothesis =>
      rw [declarationsIn_eq, List.append_eq_nil_iff, declarationsFrom_eq_nil_iff] at noneDeclared
      obtain ⟨notHere, notBelow⟩ := noneDeclared
      have declaresOther : declares name node = false := by simpa using notHere
      rw [splice_eq_mapChildren declaresOther]
      refine node.mapChildren_eq_self fun index child found => ?_
      have isChild := List.mem_of_getElem? found
      exact inductionHypothesis child isChild (notBelow child isChild)

/-- The only declaration is replaced at its address. -/
theorem splice_eq_replaceAt
    {name : String}
    {node : Node}
    {only : Occurrence}
    (single : declarationsIn name node = [only])
    (replacement : Declaration) :
    splice name replacement node = node.replaceAt only.address replacement.toNode := by
  induction node using Node.induction_on_children generalizing only with
  | step node inductionHypothesis =>
      cases isDeclared : declares name node with
      | true =>
          rw [declarationsIn_eq, isDeclared, if_pos rfl, List.singleton_append,
            List.cons.injEq] at single
          rw [splice_of_declares isDeclared, ← single.1, Node.replaceAt]
      | false =>
          rw [declarationsIn_of_declares_eq_false isDeclared] at single
          obtain ⟨index, child, inner, found, one, rfl, others⟩ :=
            exists_of_declarationsFrom_eq_singleton single
          rw [splice_eq_mapChildren isDeclared, Nat.zero_add, Occurrence.address_inChild,
            Node.replaceAt]
          refine node.mapChildren_congr fun number other otherFound => ?_
          by_cases same : number = index
          · obtain rfl : child = other :=
              Option.some.inj (found.symm.trans (same ▸ otherFound))
            rw [if_pos same, inductionHypothesis child (List.mem_of_getElem? found) one]
          · rw [if_neg same, splice_eq_self (others number other otherFound same)]

/-- In a program the only declaration is replaced at its address. -/
theorem spliceProgram_eq_replaceAt
    {name : String}
    {program : Program}
    {only : Occurrence}
    (single : declarations name program = [only])
    (replacement : Declaration) :
    spliceProgram name replacement program =
      program.replaceAt only.address replacement.toNode := by
  obtain ⟨index, item, inner, found, one, rfl, others⟩ :=
    exists_of_declarationsFrom_eq_singleton single
  rw [spliceProgram, spliceAll_eq_map, Nat.zero_add, Occurrence.address_inChild,
    Program.replaceAt]
  congr 1
  refine (List.mapIdx_eq_iff.mpr fun number => ?_).symm
  cases otherFound : program.items[number]? with
  | none => simp [otherFound]
  | some other =>
      by_cases same : number = index
      · obtain rfl : item = other := Option.some.inj (found.symm.trans (same ▸ otherFound))
        simp [found, same, splice_eq_replaceAt one]
      · simp [otherFound, same, splice_eq_self (others number other otherFound same)]

theorem spliceCountAll_append (name : String) (first second : List Node) :
    spliceCountAll name (first ++ second) =
      spliceCountAll name first + spliceCountAll name second := by
  induction first with
  | nil => simp [spliceCountAll]
  | cons node rest inductionHypothesis =>
      rw [List.cons_append, spliceCountAll, spliceCountAll, inductionHypothesis, Nat.add_assoc]

theorem spliceCount_eq (name : String) (node : Node) :
    spliceCount name node =
      if declares name node then 1 else spliceCountAll name node.children := by
  cases node with
  | function span signature parameters body =>
      simp [spliceCount, declares, Node.children, spliceCountAll_append, spliceCountAll]
  | _ => simp [spliceCount, declares, Node.children, spliceCountAll]

/-- Something is replaced in some trees if something is replaced in one of them. -/
theorem spliceCountAll_pos_of_mem
    {name : String}
    {nodes : List Node}
    {node : Node}
    (present : node ∈ nodes)
    (replaced : 0 < spliceCount name node) : 0 < spliceCountAll name nodes := by
  obtain ⟨before, after, rfl⟩ := List.append_of_mem present
  rw [spliceCountAll_append, spliceCountAll]
  omega

/-- Something is replaced where something is declared. -/
theorem spliceCount_pos
    {name : String}
    {node : Node}
    (declared : declarationsIn name node ≠ []) : 0 < spliceCount name node := by
  induction node using Node.induction_on_children with
  | step node inductionHypothesis =>
      rw [spliceCount_eq]
      cases isDeclared : declares name node with
      | true => exact Nat.zero_lt_one
      | false =>
          rw [declarationsIn_of_declares_eq_false isDeclared, ne_eq,
            declarationsFrom_eq_nil_iff] at declared
          obtain ⟨child, isChild, declaredBelow⟩ : ∃ child ∈ node.children,
              declarationsIn name child ≠ [] := by
            simpa using declared
          exact spliceCountAll_pos_of_mem isChild
            (inductionHypothesis child isChild declaredBelow)

/-- Something is replaced in a program that has a declaration. -/
theorem spliceCountAll_items_pos
    {name : String}
    {program : Program}
    {only : Occurrence}
    (single : declarations name program = [only]) :
    0 < spliceCountAll name program.items := by
  obtain ⟨index, item, inner, found, one, _, _⟩ :=
    exists_of_declarationsFrom_eq_singleton single
  exact spliceCountAll_pos_of_mem (List.mem_of_getElem? found)
    (spliceCount_pos (by rw [one]; exact List.cons_ne_nil inner []))

end Extraction
end ErrorTemplates
