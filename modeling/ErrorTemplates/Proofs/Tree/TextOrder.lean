import ErrorTemplates.Proofs.Tree.Address

/-!
# The order of the text

A visit takes the children of a node in the order in which they stand in the text, except
that the body of a `do` loop and the heritage of a class are visited last and stand first.
Trees are in text order between two positions when their calls and function declarations
follow one another there as the children follow one another in the text.
-/

namespace ErrorTemplates
namespace Program

/-- The last child of such a node stands before the others in the text. -/
def Shape.lastStandsFirst : Shape -> Bool
  | .doLoop => true
  | .classExpression _ hasHeritage | .classDeclaration _ hasHeritage => hasHeritage
  | _ => false

namespace Node

/-- The last child of the node stands before the others in the text. -/
def lastStandsFirst : Node -> Bool
  | .other _ shape _ => shape.lastStandsFirst
  | _ => false

/-- The nodes directly below a node, in the order of the text. -/
def childrenInText (node : Node) : List Node :=
  if node.lastStandsFirst then node.children.getLast?.toList ++ node.children.dropLast
  else node.children

/-- The node is of a kind that a visit may take notice of. -/
def isNoticeable : Node -> Bool
  | .call .. | .function .. => true
  | _ => false

theorem childrenInText_of_not_lastStandsFirst
    {node : Node}
    (inOrder : node.lastStandsFirst = false) : node.childrenInText = node.children := by
  rw [childrenInText, inOrder, if_neg Bool.false_ne_true]

theorem childrenInText_of_lastStandsFirst
    {node last : Node}
    {others : List Node}
    (turned : node.lastStandsFirst = true)
    (children_eq : node.children = others ++ [last]) :
    node.childrenInText = last :: others := by
  rw [childrenInText, if_pos turned, children_eq, List.getLast?_concat, List.dropLast_concat]
  rfl

/-- A node has the same children in the text as in the visit. -/
theorem mem_childrenInText_iff (node child : Node) :
    child ∈ node.childrenInText ↔ child ∈ node.children := by
  cases turned : node.lastStandsFirst with
  | false => rw [childrenInText_of_not_lastStandsFirst turned]
  | true =>
      rcases List.eq_nil_or_concat node.children with none | ⟨others, last, children_eq⟩
      · simp [childrenInText, none]
      · rw [List.concat_eq_append] at children_eq
        rw [childrenInText_of_lastStandsFirst turned children_eq, children_eq]
        simp [or_comm]

/-- The text has two children of a node in the other order than the visit. -/
def turnsChildren (node : Node) (index otherIndex : Nat) : Bool :=
  node.lastStandsFirst &&
    (index + 1 == node.children.length || otherIndex + 1 == node.children.length)

/-- The text has the nodes at two addresses in the other order than the visit. -/
def turns (node : Node) : Address -> Address -> Bool
  | index :: below, otherIndex :: otherBelow =>
      if index = otherIndex then
        match node.children[index]? with
        | some child => child.turns below otherBelow
        | none => false
      else node.turnsChildren index otherIndex
  | _, _ => false

/-- What is below a child of a node is found from that child. -/
theorem exists_child_of_subtree?
    {node below : Node}
    {index : Nat}
    {address : Address}
    (found : node.subtree? (index :: address) = some below) :
    ∃ child, node.children[index]? = some child ∧ child.subtree? address = some below := by
  rw [subtree?_cons] at found
  exact (subtreeAmong?_eq_some_iff _ _ _ _).mp found

theorem pair_sublist
    {elements : List α}
    {index laterIndex : Nat}
    {earlier later : α}
    (isEarlier : elements[index]? = some earlier)
    (isLater : elements[laterIndex]? = some later)
    (before : index < laterIndex) : [earlier, later].Sublist elements := by
  have inBeginning : earlier ∈ elements.take laterIndex :=
    List.mem_of_getElem? (by rwa [List.getElem?_take_of_lt before])
  have inRest : later ∈ elements.drop laterIndex :=
    List.mem_of_getElem? (i := 0) (by rwa [List.getElem?_drop, Nat.add_zero])
  rw [← List.take_append_drop laterIndex elements]
  exact (List.singleton_sublist.mpr inBeginning).append (List.singleton_sublist.mpr inRest)

/-- Two children of a node follow one another in the text unless it turns them around. -/
theorem sublist_childrenInText
    {node earlier later : Node}
    {index laterIndex : Nat}
    (isEarlier : node.children[index]? = some earlier)
    (isLater : node.children[laterIndex]? = some later)
    (before : index < laterIndex) :
    (if node.turnsChildren index laterIndex then [later, earlier]
      else [earlier, later]).Sublist node.childrenInText := by
  cases turned : node.lastStandsFirst with
  | false =>
      rw [childrenInText_of_not_lastStandsFirst turned, turnsChildren, turned, Bool.false_and,
        if_neg Bool.false_ne_true]
      exact pair_sublist isEarlier isLater before
  | true =>
      rcases List.eq_nil_or_concat node.children with none | ⟨others, last, children_eq⟩
      · simp [none] at isEarlier
      rw [List.concat_eq_append] at children_eq
      rw [childrenInText_of_lastStandsFirst turned children_eq]
      have count : node.children.length = others.length + 1 := by simp [children_eq]
      obtain ⟨laterInside, _⟩ := List.getElem?_eq_some_iff.mp isLater
      have isOther : others[index]? = some earlier := by
        rwa [children_eq, List.getElem?_append_left (by omega)] at isEarlier
      by_cases isLast : laterIndex = others.length
      · obtain rfl : last = later := by
          rw [children_eq, isLast, List.getElem?_concat_length] at isLater
          exact Option.some.inj isLater
        have turns : node.turnsChildren index laterIndex = true := by
          simp [turnsChildren, turned, count, isLast]
        rw [if_pos turns]
        exact (List.singleton_sublist.mpr (List.mem_of_getElem? isOther)).cons_cons last
      · rw [children_eq, List.getElem?_append_left (by omega)] at isLater
        have turns : node.turnsChildren index laterIndex = false := by
          simp [turnsChildren, count]
          omega
        rw [turns, if_neg Bool.false_ne_true]
        exact (pair_sublist isOther isLater before).cons last

end Node

/-- The calls and the function declarations in trees stand between two positions, as the trees
follow one another in the text. A call stands where its callee begins, which is before its
arguments, and a declaration begins before its parameters and its body. -/
inductive InTextOrder (origin : Origin) : Nat -> List Node -> Nat -> Prop
  | nil {first last : Nat} (before : first ≤ last) : InTextOrder origin first [] last
  /-- A node of which no visit takes notice stands where its children do. -/
  | inner
      {first last : Nat}
      {node : Node}
      {rest : List Node}
      (unnoticed : node.isNoticeable = false)
      (below : InTextOrder origin first (node.childrenInText ++ rest) last) :
      InTextOrder origin first (node :: rest) last
  | call
      {first opening inside last : Nat}
      {span : Span}
      {callee : Node}
      {arguments rest : List Node}
      (belongs : span.origin = origin)
      (begins : first ≤ span.start)
      (inCallee : InTextOrder origin span.start [callee] opening)
      (opens : opening < inside)
      (inArguments : InTextOrder origin inside (arguments ++ rest) last) :
      InTextOrder origin first (.call span callee arguments :: rest) last
  | function
      {first inside last : Nat}
      {span : Span}
      {signature : Signature}
      {parameters rest : List Node}
      {body : Node}
      (belongs : signature.nameSpan.origin = origin)
      (begins : first ≤ span.start)
      (opens : span.start < inside)
      (below : InTextOrder origin inside (parameters ++ [body] ++ rest) last) :
      InTextOrder origin first (.function span signature parameters body :: rest) last

namespace InTextOrder

variable {origin : Origin} {first middle last : Nat} {nodes others : List Node} {node : Node}

theorem first_le_last (inOrder : InTextOrder origin first nodes last) : first ≤ last := by
  induction inOrder with
  | nil before => exact before
  | inner _ _ inductionHypothesis => exact inductionHypothesis
  | call belongs begins _ opens _ inCallee inArguments => omega
  | function belongs begins opens _ below => omega

theorem mono_left
    {earlier : Nat}
    (inOrder : InTextOrder origin first nodes last)
    (isEarlier : earlier ≤ first) : InTextOrder origin earlier nodes last := by
  induction inOrder with
  | nil before => exact .nil (Nat.le_trans isEarlier before)
  | inner unnoticed _ inductionHypothesis => exact .inner unnoticed (inductionHypothesis isEarlier)
  | call belongs begins inCallee opens inArguments =>
      exact .call belongs (Nat.le_trans isEarlier begins) inCallee opens inArguments
  | function belongs begins opens below =>
      exact .function belongs (Nat.le_trans isEarlier begins) opens below

theorem append
    (inNodes : InTextOrder origin first nodes middle)
    (inOthers : InTextOrder origin middle others last) :
    InTextOrder origin first (nodes ++ others) last := by
  induction inNodes with
  | nil before => exact inOthers.mono_left before
  | inner unnoticed _ inductionHypothesis =>
      rw [List.cons_append]
      exact .inner unnoticed (List.append_assoc .. ▸ inductionHypothesis inOthers)
  | call belongs begins inCallee opens _ _ inductionHypothesis =>
      rw [List.cons_append]
      exact .call belongs begins inCallee opens
        (List.append_assoc .. ▸ inductionHypothesis inOthers)
  | function belongs begins opens _ inductionHypothesis =>
      rw [List.cons_append]
      exact .function belongs begins opens (List.append_assoc .. ▸ inductionHypothesis inOthers)

theorem mono_right
    {later : Nat}
    (inOrder : InTextOrder origin first nodes last)
    (isLater : last ≤ later) : InTextOrder origin first nodes later := by
  simpa using inOrder.append (.nil isLater)

/-- Trees that stand in order can be divided anywhere. -/
theorem exists_middle
    (inOrder : InTextOrder origin first (nodes ++ others) last) :
    ∃ middle, InTextOrder origin first nodes middle ∧ InTextOrder origin middle others last := by
  generalize all_eq : nodes ++ others = all at inOrder
  induction inOrder generalizing nodes with
  | nil before =>
      obtain ⟨rfl, rfl⟩ := List.append_eq_nil_iff.mp all_eq
      exact ⟨_, .nil (Nat.le_refl _), .nil before⟩
  | inner unnoticed below inductionHypothesis =>
      rcases List.append_eq_cons_iff.mp all_eq with ⟨rfl, rfl⟩ | ⟨rest, rfl, rfl⟩
      · exact ⟨_, .nil (Nat.le_refl _), .inner unnoticed below⟩
      · obtain ⟨middle, inNodes, inOthers⟩ := inductionHypothesis (List.append_assoc _ rest others)
        exact ⟨middle, .inner unnoticed inNodes, inOthers⟩
  | call belongs begins inCallee opens inArguments _ inductionHypothesis =>
      rcases List.append_eq_cons_iff.mp all_eq with ⟨rfl, rfl⟩ | ⟨rest, rfl, rfl⟩
      · exact ⟨_, .nil (Nat.le_refl _), .call belongs begins inCallee opens inArguments⟩
      · obtain ⟨middle, inNodes, inOthers⟩ := inductionHypothesis (List.append_assoc _ rest others)
        exact ⟨middle, .call belongs begins inCallee opens inNodes, inOthers⟩
  | function belongs begins opens below inductionHypothesis =>
      rcases List.append_eq_cons_iff.mp all_eq with ⟨rfl, rfl⟩ | ⟨rest, rfl, rfl⟩
      · exact ⟨_, .nil (Nat.le_refl _), .function belongs begins opens below⟩
      · obtain ⟨middle, inNodes, inOthers⟩ := inductionHypothesis (List.append_assoc _ rest others)
        exact ⟨middle, .function belongs begins opens inNodes, inOthers⟩

/-- The first of several trees that stand in order is followed by the others. -/
theorem exists_middle_cons (inOrder : InTextOrder origin first (node :: others) last) :
    ∃ middle, InTextOrder origin first [node] middle ∧ InTextOrder origin middle others last :=
  exists_middle (List.singleton_append.symm ▸ inOrder)

/-- Trees that stand in order go on doing so when some are left out. -/
theorem of_sublist
    (inOrder : InTextOrder origin first nodes last)
    (kept : others.Sublist nodes) : InTextOrder origin first others last := by
  induction kept generalizing first with
  | slnil => exact inOrder
  | cons node _ inductionHypothesis =>
      obtain ⟨middle, inNode, inRest⟩ := inOrder.exists_middle_cons
      exact inductionHypothesis (inRest.mono_left inNode.first_le_last)
  | cons_cons node _ inductionHypothesis =>
      obtain ⟨middle, inNode, inRest⟩ := inOrder.exists_middle_cons
      exact inNode.append (inductionHypothesis inRest)

/-- Each of the trees stands between the two positions. -/
theorem of_mem
    (inOrder : InTextOrder origin first nodes last)
    (present : node ∈ nodes) : InTextOrder origin first [node] last :=
  inOrder.of_sublist (List.singleton_sublist.mpr present)

/-! ## One tree -/

/-- A node of which no visit takes notice stands where its children do. -/
theorem singleton
    (below : InTextOrder origin first node.childrenInText last)
    (unnoticed : node.isNoticeable = false) : InTextOrder origin first [node] last :=
  .inner unnoticed (by rwa [List.append_nil])

/-- The children of a node stand in the order of the text. -/
theorem childrenInText (inOrder : InTextOrder origin first [node] last) :
    InTextOrder origin first node.childrenInText last := by
  cases inOrder with
  | inner _ below => rwa [List.append_nil] at below
  | call belongs begins inCallee opens inArguments =>
      rw [List.append_nil] at inArguments
      exact (inCallee.mono_left begins).append (inArguments.mono_left (Nat.le_of_lt opens))
  | function belongs begins opens below =>
      rw [List.append_nil] at below
      exact below.mono_left (by omega)

theorem exists_of_call
    {span : Span}
    {callee : Node}
    {arguments : List Node}
    (inOrder : InTextOrder origin first [.call span callee arguments] last) :
    span.origin = origin ∧ first ≤ span.start ∧
      ∃ opening inside, InTextOrder origin span.start [callee] opening ∧ opening < inside ∧
        InTextOrder origin inside arguments last := by
  cases inOrder with
  | inner unnoticed _ => simp [Node.isNoticeable] at unnoticed
  | call belongs begins inCallee opens inArguments =>
      rw [List.append_nil] at inArguments
      exact ⟨belongs, begins, _, _, inCallee, opens, inArguments⟩

theorem exists_of_function
    {span : Span}
    {signature : Signature}
    {parameters : List Node}
    {body : Node}
    (inOrder : InTextOrder origin first [.function span signature parameters body] last) :
    signature.nameSpan.origin = origin ∧ first ≤ span.start ∧
      ∃ inside, span.start < inside ∧ InTextOrder origin inside (parameters ++ [body]) last := by
  cases inOrder with
  | inner unnoticed _ => simp [Node.isNoticeable] at unnoticed
  | function belongs begins opens below =>
      rw [List.append_nil] at below
      exact ⟨belongs, begins, _, opens, below⟩

theorem other_iff
    {shape : Shape}
    {children : List Node}
    (inOrder : shape.lastStandsFirst = false)
    (span : Span) :
    InTextOrder origin first [.other span shape children] last ↔
      InTextOrder origin first children last := by
  have children_eq : (Node.other span shape children).childrenInText = children :=
    Node.childrenInText_of_not_lastStandsFirst inOrder
  constructor
  · intro inOrder
    have below := inOrder.childrenInText
    rwa [children_eq] at below
  · intro below
    rw [← children_eq] at below
    exact below.singleton rfl

/-- The children of a node stand between the same positions as the node. -/
theorem child
    {child : Node}
    (inOrder : InTextOrder origin first [node] last)
    (present : child ∈ node.children) : InTextOrder origin first [child] last :=
  inOrder.childrenInText.of_mem ((node.mem_childrenInText_iff child).mpr present)

/-- Two children of a node stand in order, the later one first where the text turns them
around. -/
theorem pairOfChildren
    {earlier later : Node}
    {index laterIndex : Nat}
    (inOrder : InTextOrder origin first [node] last)
    (isEarlier : node.children[index]? = some earlier)
    (isLater : node.children[laterIndex]? = some later)
    (before : index < laterIndex) :
    InTextOrder origin first
      (if node.turnsChildren index laterIndex then [later, earlier] else [earlier, later]) last :=
  inOrder.childrenInText.of_sublist (Node.sublist_childrenInText isEarlier isLater before)

/-- What is below a node stands between the same positions as the node. -/
theorem subtree
    {address : Address}
    {below : Node}
    (inOrder : InTextOrder origin first [node] last)
    (found : node.subtree? address = some below) : InTextOrder origin first [below] last := by
  induction address generalizing node with
  | nil =>
      obtain rfl := Option.some.inj found
      exact inOrder
  | cons index address inductionHypothesis =>
      obtain ⟨child, isChild, found⟩ := Node.exists_child_of_subtree? found
      exact inductionHypothesis (inOrder.child (List.mem_of_getElem? isChild)) found

end InTextOrder

/-! ## Programs -/

/-- The text of a program has the nodes at two addresses in the other order than the visit. -/
def turns (program : Program) : Address -> Address -> Bool
  | index :: below, otherIndex :: otherBelow =>
      index == otherIndex && (program.items[index]?).any fun item => item.turns below otherBelow
  | _, _ => false

end Program
end ErrorTemplates
