import ErrorTemplates.Program.Node

/-!
# Addresses in trees

An address tells one node of a tree from all others, also from equal ones: it is the way
down from the root. All occurrences of nodes are listed in the order of the visit, and
addresses in this order are increasing lexicographically.
-/

namespace ErrorTemplates
namespace Program

/-- The way from the root of a tree to a node: the number of the child at each step. -/
abbrev Address := List Nat

namespace Node

mutual

/-- A property of all nodes follows when each node inherits it from its children. -/
theorem induction_on_children
    {motive : Node -> Prop}
    (step : ∀ node : Node, (∀ child ∈ node.children, motive child) -> motive node) :
    ∀ node : Node, motive node
  | .identifier .. => step _ (List.forall_mem_nil motive)
  | .string .. => step _ (List.forall_mem_nil motive)
  | .sum _ left right =>
      step _ (List.forall_mem_cons.mpr
        ⟨induction_on_children step left,
          List.forall_mem_singleton.mpr (induction_on_children step right)⟩)
  | .parens _ inner =>
      step _ (List.forall_mem_singleton.mpr (induction_on_children step inner))
  | .spread _ inner =>
      step _ (List.forall_mem_singleton.mpr (induction_on_children step inner))
  | .call _ callee arguments =>
      step _ (List.forall_mem_cons.mpr
        ⟨induction_on_children step callee, forall_mem_of_step step arguments⟩)
  | .construct _ callee arguments =>
      step _ (List.forall_mem_cons.mpr
        ⟨induction_on_children step callee, forall_mem_of_step step arguments⟩)
  | .throwing _ operand =>
      step _ (List.forall_mem_singleton.mpr (induction_on_children step operand))
  | .function _ _ parameters body =>
      step _ (List.forall_mem_append.mpr
        ⟨forall_mem_of_step step parameters,
          List.forall_mem_singleton.mpr (induction_on_children step body)⟩)
  | .other _ _ children => step _ (forall_mem_of_step step children)

private theorem forall_mem_of_step
    {motive : Node -> Prop}
    (step : ∀ node : Node, (∀ child ∈ node.children, motive child) -> motive node) :
    ∀ nodes : List Node, ∀ child ∈ nodes, motive child
  | [] => List.forall_mem_nil motive
  | head :: tail =>
      List.forall_mem_cons.mpr
        ⟨induction_on_children step head, forall_mem_of_step step tail⟩

end

/-- The node at an address. -/
def subtree? (node : Node) : Address -> Option Node
  | [] => some node
  | index :: below =>
      match node.children[index]? with
      | some child => child.subtree? below
      | none => none

@[simp] theorem subtree?_nil (node : Node) : node.subtree? [] = some node := rfl

end Node

/-- The node at an address in several trees, which are numbered from zero. -/
def subtreeAmong? (nodes : List Node) : Address -> Option Node
  | [] => none
  | index :: below => (nodes[index]?).bind fun node => node.subtree? below

@[simp] theorem subtreeAmong?_nil (nodes : List Node) : subtreeAmong? nodes [] = none := rfl

theorem Node.subtree?_cons (node : Node) (index : Nat) (below : Address) :
    node.subtree? (index :: below) = subtreeAmong? node.children (index :: below) := by
  rw [subtree?, subtreeAmong?]
  cases node.children[index]? <;> rfl

theorem subtreeAmong?_eq_some_iff
    (nodes : List Node)
    (index : Nat)
    (below : Address)
    (node : Node) :
    subtreeAmong? nodes (index :: below) = some node ↔
      ∃ child, nodes[index]? = some child ∧ child.subtree? below = some node :=
  Option.bind_eq_some_iff

theorem Node.subtree?_append (node : Node) (above below : Address) :
    node.subtree? (above ++ below) =
      (node.subtree? above).bind fun found => found.subtree? below := by
  induction above generalizing node with
  | nil => rfl
  | cons index above inductionHypothesis =>
      rw [List.cons_append, subtree?_cons, subtree?_cons, subtreeAmong?, subtreeAmong?,
        Option.bind_assoc]
      exact congrArg _ (funext fun child => inductionHypothesis child)

/-! ## Occurrences -/

/-- A node with its address in a tree. -/
structure Occurrence where
  /-- The address. -/
  address : Address
  /-- The node. -/
  node : Node

namespace Occurrence

/-- An occurrence in a child as an occurrence in the tree above. -/
def inChild (index : Nat) (occurrence : Occurrence) : Occurrence :=
  { occurrence with address := index :: occurrence.address }

@[simp] theorem address_inChild (index : Nat) (occurrence : Occurrence) :
    (occurrence.inChild index).address = index :: occurrence.address := rfl

@[simp] theorem node_inChild (index : Nat) (occurrence : Occurrence) :
    (occurrence.inChild index).node = occurrence.node := rfl

end Occurrence

mutual

/-- All occurrences of nodes in a tree, each before those below it. -/
def Node.occurrences : Node -> List Occurrence
  | node@(.identifier ..) => [{ address := [], node }]
  | node@(.string ..) => [{ address := [], node }]
  | node@(.sum _ left right) =>
      { address := [], node } ::
        (left.occurrences.map (Occurrence.inChild 0) ++
          right.occurrences.map (Occurrence.inChild 1))
  | node@(.parens _ inner) =>
      { address := [], node } :: inner.occurrences.map (Occurrence.inChild 0)
  | node@(.spread _ inner) =>
      { address := [], node } :: inner.occurrences.map (Occurrence.inChild 0)
  | node@(.call _ callee arguments) =>
      { address := [], node } ::
        (callee.occurrences.map (Occurrence.inChild 0) ++ occurrencesFrom 1 arguments)
  | node@(.construct _ callee arguments) =>
      { address := [], node } ::
        (callee.occurrences.map (Occurrence.inChild 0) ++ occurrencesFrom 1 arguments)
  | node@(.throwing _ operand) =>
      { address := [], node } :: operand.occurrences.map (Occurrence.inChild 0)
  | node@(.function _ _ parameters body) =>
      { address := [], node } ::
        (occurrencesFrom 0 parameters ++
          body.occurrences.map (Occurrence.inChild parameters.length))
  | node@(.other _ _ children) => { address := [], node } :: occurrencesFrom 0 children

/-- All occurrences of nodes in several trees, which are numbered from a start. -/
def occurrencesFrom (start : Nat) : List Node -> List Occurrence
  | [] => []
  | node :: rest =>
      node.occurrences.map (Occurrence.inChild start) ++ occurrencesFrom (start + 1) rest

end

theorem occurrencesFrom_append (start : Nat) (first second : List Node) :
    occurrencesFrom start (first ++ second) =
      occurrencesFrom start first ++ occurrencesFrom (start + first.length) second := by
  induction first generalizing start with
  | nil => simp [occurrencesFrom]
  | cons node rest inductionHypothesis =>
      simp only [List.cons_append, occurrencesFrom, inductionHypothesis, List.append_assoc,
        List.length_cons]
      rw [Nat.add_right_comm, Nat.add_assoc]

/-- The root of a tree comes first, and then come the occurrences in its children. -/
theorem Node.occurrences_eq (node : Node) :
    node.occurrences = { address := [], node } :: occurrencesFrom 0 node.children := by
  cases node with
  | function span signature parameters body =>
      simp [Node.occurrences, children, occurrencesFrom_append, occurrencesFrom]
  | _ => simp [Node.occurrences, children, occurrencesFrom]

theorem mem_occurrencesFrom_iff (start : Nat) (nodes : List Node) (occurrence : Occurrence) :
    occurrence ∈ occurrencesFrom start nodes ↔
      ∃ (index : Nat) (child : Node), nodes[index]? = some child ∧
        ∃ inner ∈ child.occurrences, occurrence = inner.inChild (start + index) := by
  induction nodes generalizing start with
  | nil => simp [occurrencesFrom]
  | cons node rest inductionHypothesis =>
      simp only [occurrencesFrom, List.mem_append, List.mem_map, inductionHypothesis]
      constructor
      · rintro (⟨inner, present, rfl⟩ | ⟨index, child, found, inner, present, rfl⟩)
        · exact ⟨0, node, rfl, inner, present, rfl⟩
        · refine ⟨index + 1, child, found, inner, present, ?_⟩
          rw [Nat.add_assoc, Nat.add_comm 1]
      · rintro ⟨_ | index, child, found, inner, present, rfl⟩
        · obtain rfl : node = child := by simpa using found
          exact .inl ⟨inner, present, rfl⟩
        · refine .inr ⟨index, child, by simpa using found, inner, present, ?_⟩
          rw [Nat.add_assoc, Nat.add_comm 1]

private theorem mem_occurrencesFrom_zero
    (nodes : List Node)
    (known : ∀ child ∈ nodes, ∀ inner : Occurrence,
      inner ∈ child.occurrences ↔ child.subtree? inner.address = some inner.node)
    (occurrence : Occurrence) :
    occurrence ∈ occurrencesFrom 0 nodes ↔
      subtreeAmong? nodes occurrence.address = some occurrence.node := by
  obtain ⟨address, node⟩ := occurrence
  rw [mem_occurrencesFrom_iff]
  cases address with
  | nil => simp [Occurrence.inChild]
  | cons index below =>
      rw [subtreeAmong?_eq_some_iff]
      constructor
      · rintro ⟨number, child, found, inner, present, equal⟩
        obtain ⟨⟨rfl, rfl⟩, rfl⟩ : (index = number ∧ below = inner.address) ∧
            node = inner.node := by
          simpa [Occurrence.inChild] using equal
        exact ⟨child, found, (known child (List.mem_of_getElem? found) inner).mp present⟩
      · rintro ⟨child, found, atBelow⟩
        have member := List.mem_of_getElem? found
        refine ⟨index, child, found, { address := below, node }, ?_, ?_⟩
        · exact (known child member _).mpr atBelow
        · simp [Occurrence.inChild]

/-- The occurrences are the nodes at their addresses. -/
theorem Node.mem_occurrences_iff (tree : Node) (occurrence : Occurrence) :
    occurrence ∈ tree.occurrences ↔ tree.subtree? occurrence.address = some occurrence.node := by
  induction tree using induction_on_children generalizing occurrence with
  | step tree inductionHypothesis =>
      have inChildren := mem_occurrencesFrom_zero tree.children inductionHypothesis occurrence
      obtain ⟨address, node⟩ := occurrence
      rw [occurrences_eq, List.mem_cons, inChildren]
      cases address with
      | nil => simp [eq_comm]
      | cons index below => simp [subtree?_cons]

/-! ## The order of the visit -/

/-- Numbers of children in the addresses of a list of trees are counted from the start. -/
theorem le_of_mem_occurrencesFrom
    {start : Nat}
    {nodes : List Node}
    {occurrence : Occurrence}
    (present : occurrence ∈ occurrencesFrom start nodes) :
    ∃ index rest, start ≤ index ∧ occurrence.address = index :: rest := by
  obtain ⟨index, _, _, inner, _, rfl⟩ := (mem_occurrencesFrom_iff _ _ _).mp present
  exact ⟨start + index, inner.address, Nat.le_add_right start index, rfl⟩

private theorem pairwise_occurrencesFrom
    (start : Nat)
    (nodes : List Node)
    (sorted : ∀ node ∈ nodes, node.occurrences.Pairwise (·.address < ·.address)) :
    (occurrencesFrom start nodes).Pairwise (·.address < ·.address) := by
  induction nodes generalizing start with
  | nil => exact List.Pairwise.nil
  | cons node rest inductionHypothesis =>
      obtain ⟨nodeSorted, restSorted⟩ := List.forall_mem_cons.mp sorted
      refine List.pairwise_append.mpr ⟨?_, inductionHypothesis _ restSorted, ?_⟩
      · refine List.pairwise_map.mpr (nodeSorted.imp fun before => ?_)
        exact List.cons_lt_cons_iff.mpr (.inr ⟨rfl, before⟩)
      · intro first inNode second inRest
        obtain ⟨inner, _, rfl⟩ := List.mem_map.mp inNode
        obtain ⟨index, below, later, address_eq⟩ := le_of_mem_occurrencesFrom inRest
        rw [address_eq]
        exact List.cons_lt_cons_iff.mpr (.inl later)

/-- The order of the visit is the lexicographic order of addresses. -/
theorem Node.pairwise_occurrences (tree : Node) :
    tree.occurrences.Pairwise (·.address < ·.address) := by
  induction tree using induction_on_children with
  | step tree inductionHypothesis =>
      rw [occurrences_eq]
      refine List.pairwise_cons.mpr ⟨?_, pairwise_occurrencesFrom 0 _ inductionHypothesis⟩
      intro occurrence present
      obtain ⟨index, below, _, address_eq⟩ := le_of_mem_occurrencesFrom present
      rw [address_eq]
      exact List.nil_lt_cons index below

/-! ## Programs -/

/-- All occurrences of nodes in a program, in the order of the visit. -/
def occurrences (program : Program) : List Occurrence := occurrencesFrom 0 program.items

/-- The node of a program at an address. -/
def subtree? (program : Program) (address : Address) : Option Node :=
  subtreeAmong? program.items address

/-- What is below a node of a program is found from that node. -/
theorem subtree?_append_of_some
    {program : Program}
    {above : Address}
    {node : Node}
    (found : program.subtree? above = some node)
    (below : Address) : program.subtree? (above ++ below) = node.subtree? below := by
  cases above with
  | nil => simp [subtree?] at found
  | cons index above =>
      obtain ⟨item, isItem, found⟩ := (subtreeAmong?_eq_some_iff _ _ _ _).mp found
      simp [subtree?, subtreeAmong?, isItem, Node.subtree?_append, found]

theorem mem_occurrences_iff (program : Program) (occurrence : Occurrence) :
    occurrence ∈ program.occurrences ↔
      program.subtree? occurrence.address = some occurrence.node :=
  mem_occurrencesFrom_zero program.items (fun item _ => item.mem_occurrences_iff) occurrence

/-- The addresses of a program increase in the order of the visit. -/
theorem pairwise_occurrences (program : Program) :
    program.occurrences.Pairwise (·.address < ·.address) :=
  pairwise_occurrencesFrom 0 program.items fun item _ => item.pairwise_occurrences

end Program
end ErrorTemplates
