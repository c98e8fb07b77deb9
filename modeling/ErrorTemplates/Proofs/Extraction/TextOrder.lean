import ErrorTemplates.Proofs.Extraction.Substitution
import ErrorTemplates.Proofs.Tree.TextOrder

/-!
# Calls and declarations in text order

The calls that make errors and the function declarations of a program that stands in text
order, as one that was read from a text does, are met in the order of the text, except that the
visit turns around the two parts of a `do` loop and the heritage and the members of a class.
-/

namespace ErrorTemplates
namespace Extraction

open Program

/-- The node is a call that makes an error or a function declaration. -/
def isSite (naming : Naming) : Node -> Bool
  | .call _ callee arguments => (naming.match? callee arguments).isSome
  | .function .. => true
  | _ => false

variable {naming : Naming} {origin : Origin} {first last : Nat}

/-! ## Where sites stand -/

/-- A site begins between the positions between which it stands. -/
theorem start_between
    {node : Node}
    (inOrder : InTextOrder origin first [node] last)
    (site : isSite naming node = true) :
    first ≤ node.span.start ∧ node.span.start < last := by
  cases node with
  | call span callee arguments =>
      obtain ⟨_, begins, opening, inside, inCallee, opens, inArguments⟩ := inOrder.exists_of_call
      have later := inCallee.first_le_last
      have further := inArguments.first_le_last
      exact ⟨begins, show span.start < last by omega⟩
  | function span signature parameters body =>
      obtain ⟨_, begins, inside, opens, below⟩ := inOrder.exists_of_function
      exact ⟨begins, Nat.lt_of_lt_of_le opens below.first_le_last⟩
  | _ => simp [isSite] at site

theorem start_between_of_subtree?
    {node below : Node}
    {address : Address}
    (inOrder : InTextOrder origin first [node] last)
    (found : node.subtree? address = some below)
    (site : isSite naming below = true) :
    first ≤ below.span.start ∧ below.span.start < last :=
  start_between (inOrder.subtree found) site

/-- A call begins before the sites in its arguments. -/
theorem start_lt_of_argument
    {span : Span}
    {callee argument below : Node}
    {arguments : List Node}
    {address : Address}
    (inOrder : InTextOrder origin first [.call span callee arguments] last)
    (isArgument : argument ∈ arguments)
    (found : argument.subtree? address = some below)
    (site : isSite naming below = true) : span.start < below.span.start := by
  obtain ⟨_, _, opening, inside, inCallee, opens, inArguments⟩ := inOrder.exists_of_call
  obtain ⟨after, _⟩ := start_between_of_subtree? (inArguments.of_mem isArgument) found site
  have later := inCallee.first_le_last
  omega

/-- There is no site in a name. -/
theorem isSite_of_identifier
    {span : Span}
    {name : String}
    {below : Node}
    {address : Address}
    (found : (Node.identifier span name).subtree? address = some below) :
    isSite naming below = false := by
  cases address with
  | nil =>
      obtain rfl := Option.some.inj found
      rfl
  | cons index address => simp [Node.subtree?, Node.children] at found

/-- A callee that makes errors is no site itself and begins before the sites in it. -/
theorem start_lt_of_callee
    {callee below : Node}
    {address : Address}
    {maker : Maker}
    (inOrder : InTextOrder origin first [callee] last)
    (makes : naming.maker? callee = some maker)
    (found : callee.subtree? address = some below)
    (site : isSite naming below = true) : first < below.span.start := by
  obtain ⟨_, _, rfl, _⟩ | ⟨span, factorySpan, argument, rfl, _⟩ :=
    (naming.maker?_eq_some_iff callee maker).mp makes
  · simp [isSite_of_identifier found] at site
  cases address with
  | nil =>
      obtain rfl := Option.some.inj found
      simp [isSite, Naming.match?] at site
  | cons index address =>
      obtain ⟨child, isChild, found⟩ := Node.exists_child_of_subtree? found
      rcases List.mem_cons.mp (List.mem_of_getElem? isChild) with rfl | isArgument
      · simp [isSite_of_identifier found] at site
      · obtain ⟨_, begins, _⟩ := inOrder.exists_of_call
        exact Nat.lt_of_le_of_lt begins (start_lt_of_argument inOrder isArgument found site)

/-- A site begins before the sites below it. -/
theorem start_lt_of_below
    {node below : Node}
    {index : Nat}
    {address : Address}
    (inOrder : InTextOrder origin first [node] last)
    (nodeSite : isSite naming node = true)
    (found : node.subtree? (index :: address) = some below)
    (site : isSite naming below = true) : node.span.start < below.span.start := by
  obtain ⟨child, isChild, inChild⟩ := Node.exists_child_of_subtree? found
  have isPart := List.mem_of_getElem? isChild
  cases node with
  | call span callee arguments =>
      rcases List.mem_cons.mp isPart with rfl | isArgument
      · obtain ⟨recognised, isMatch⟩ := Option.isSome_iff_exists.mp nodeSite
        obtain ⟨makes, _⟩ := (naming.match?_eq_some_iff child arguments recognised).mp isMatch
        obtain ⟨_, _, _, _, inCallee, _⟩ := inOrder.exists_of_call
        exact start_lt_of_callee inCallee makes inChild site
      · exact start_lt_of_argument inOrder isArgument inChild site
  | function span signature parameters body =>
      obtain ⟨_, _, inside, opens, inParts⟩ := inOrder.exists_of_function
      obtain ⟨after, _⟩ := start_between_of_subtree? (inParts.of_mem isPart) inChild site
      exact Nat.lt_of_lt_of_le opens after
  | _ => simp [isSite] at nodeSite

/-! ## Two sites -/

/-- A site in one of two trees that stand in order begins before those in the other one. -/
theorem start_lt_of_pair
    {one other inOne inOther : Node}
    {address otherAddress : Address}
    (inOrder : InTextOrder origin first [one, other] last)
    (isFirst : one.subtree? address = some inOne)
    (isSecond : other.subtree? otherAddress = some inOther)
    (firstSite : isSite naming inOne = true)
    (secondSite : isSite naming inOther = true) : inOne.span.start < inOther.span.start := by
  obtain ⟨middle, before, after⟩ := inOrder.exists_middle_cons
  obtain ⟨_, isBefore⟩ := start_between_of_subtree? before isFirst firstSite
  obtain ⟨isAfter, _⟩ := start_between_of_subtree? after isSecond secondSite
  exact Nat.lt_of_lt_of_le isBefore isAfter

/-- Of two sites in a tree the one that is visited first begins first, unless the text turns
them around. -/
theorem starts_of_turns
    {node earlier later : Node}
    {address laterAddress : Address}
    (inOrder : InTextOrder origin first [node] last)
    (isEarlier : node.subtree? address = some earlier)
    (isLater : node.subtree? laterAddress = some later)
    (before : address < laterAddress)
    (earlierSite : isSite naming earlier = true)
    (laterSite : isSite naming later = true) :
    if node.turns address laterAddress then later.span.start < earlier.span.start
    else earlier.span.start < later.span.start := by
  induction address generalizing node laterAddress with
  | nil =>
      obtain rfl := Option.some.inj isEarlier
      cases laterAddress with
      | nil => exact absurd before (List.lt_irrefl [])
      | cons index laterAddress =>
          simpa [Node.turns] using start_lt_of_below inOrder earlierSite isLater laterSite
  | cons index address inductionHypothesis =>
      cases laterAddress with
      | nil => exact absurd before (List.not_lt_nil _)
      | cons laterIndex laterAddress =>
          obtain ⟨child, isChild, isEarlier⟩ := Node.exists_child_of_subtree? isEarlier
          obtain ⟨other, isOther, isLater⟩ := Node.exists_child_of_subtree? isLater
          rcases List.cons_lt_cons_iff.mp before with apart | ⟨rfl, below⟩
          · have pair := inOrder.pairOfChildren isChild isOther apart
            rw [Node.turns, if_neg (Nat.ne_of_lt apart)]
            cases turned : node.turnsChildren index laterIndex with
            | true =>
                rw [turned, if_pos rfl] at pair
                exact start_lt_of_pair pair isLater isEarlier laterSite earlierSite
            | false =>
                rw [turned, if_neg Bool.false_ne_true] at pair
                exact start_lt_of_pair pair isEarlier isLater earlierSite laterSite
          · obtain rfl : child = other := Option.some.inj (isChild.symm.trans isOther)
            simp only [Node.turns, isChild, if_pos]
            exact inductionHypothesis (inOrder.child (List.mem_of_getElem? isChild)) isEarlier
              isLater below

/-! ## The sites of a program -/

/-- Of the nodes at two addresses the first one begins first, unless the text turns them
around. -/
def BeginInOrder
    (program : Program)
    (address laterAddress : Address)
    (start laterStart : Nat) : Prop :=
  if program.turns address laterAddress then laterStart < start else start < laterStart

namespace BeginInOrder

variable {program : Program} {address laterAddress : Address} {start laterStart : Nat}

theorem start_ne (inOrder : BeginInOrder program address laterAddress start laterStart) :
    start ≠ laterStart := by
  unfold BeginInOrder at inOrder
  split at inOrder <;> omega

theorem start_lt
    (inOrder : BeginInOrder program address laterAddress start laterStart)
    (unturned : program.turns address laterAddress = false) : start < laterStart := by
  rwa [BeginInOrder, unturned, if_neg Bool.false_ne_true] at inOrder

end BeginInOrder

section
variable {program : Program} (inOrder : InTextOrder origin first program.items last)
include inOrder

/-- A program in text order has its sites in the order of the visit, except for those that the
text turns around. -/
theorem beginInOrder_of_sites
    {earlier later : Occurrence}
    (isEarlier : earlier ∈ program.occurrences)
    (isLater : later ∈ program.occurrences)
    (before : earlier.address < later.address)
    (earlierSite : isSite naming earlier.node = true)
    (laterSite : isSite naming later.node = true) :
    BeginInOrder program earlier.address later.address earlier.node.span.start
      later.node.span.start := by
  rw [Program.mem_occurrences_iff] at isEarlier isLater
  obtain ⟨address, earlier⟩ := earlier
  obtain ⟨laterAddress, later⟩ := later
  match address, laterAddress with
  | [], _ => simp [Program.subtree?] at isEarlier
  | _ :: _, [] => simp [Program.subtree?] at isLater
  | index :: address, laterIndex :: laterAddress =>
      obtain ⟨item, isItem, isEarlier⟩ := (subtreeAmong?_eq_some_iff _ _ _ _).mp isEarlier
      obtain ⟨other, isOther, isLater⟩ := (subtreeAmong?_eq_some_iff _ _ _ _).mp isLater
      rcases List.cons_lt_cons_iff.mp before with apart | ⟨rfl, below⟩
      · have pair := inOrder.of_sublist (Node.pair_sublist isItem isOther apart)
        simpa [BeginInOrder, Program.turns, Nat.ne_of_lt apart] using
          start_lt_of_pair pair isEarlier isLater earlierSite laterSite
      · obtain rfl : item = other := Option.some.inj (isItem.symm.trans isOther)
        have inItem := inOrder.of_mem (List.mem_of_getElem? isItem)
        simpa [BeginInOrder, Program.turns, isItem] using
          starts_of_turns inItem isEarlier isLater below earlierSite laterSite

/-- Calls that make errors begin in the order of the visit, except for those that the text
turns around. -/
theorem pairwise_errorCalls_beginInOrder :
    (errorCalls naming program).Pairwise fun earlier later =>
      BeginInOrder program earlier.address later.address earlier.call.span.start
        later.call.span.start := by
  have atCall {errorCall : ErrorCall} (present : errorCall ∈ errorCalls naming program) :
      let node := Node.call errorCall.call.span errorCall.call.callee errorCall.call.arguments
      { address := errorCall.address, node } ∈ program.occurrences ∧
        isSite naming node = true := by
    obtain ⟨isCall, recognised⟩ := (mem_errorCalls_iff _ _ _).mp present
    exact ⟨(Program.mem_occurrences_iff _ _).mpr isCall, by simp [isSite, recognised]⟩
  refine (pairwise_errorCalls naming program).imp_of_mem ?_
  intro earlier later isEarlier isLater before
  obtain ⟨earlierPresent, earlierSite⟩ := atCall isEarlier
  obtain ⟨laterPresent, laterSite⟩ := atCall isLater
  exact beginInOrder_of_sites inOrder earlierPresent laterPresent before earlierSite laterSite

/-- Declarations of the factory begin in the order of the visit, except for those that the text
turns around. -/
theorem pairwise_declarations_beginInOrder :
    (declarations naming.factory program).Pairwise fun earlier later =>
      BeginInOrder program earlier.address later.address earlier.node.span.start
        later.node.span.start := by
  have site {node : Node} (declared : declares naming.factory node = true) :
      isSite naming node = true := by
    cases node <;> simp [declares, isSite] at declared ⊢
  refine ((pairwise_occurrences program).filter _).imp_of_mem ?_
  intro earlier later isEarlier isLater before
  obtain ⟨earlierPresent, isDeclared⟩ := List.mem_filter.mp isEarlier
  obtain ⟨laterPresent, isDeclaredToo⟩ := List.mem_filter.mp isLater
  exact beginInOrder_of_sites inOrder earlierPresent laterPresent before (site isDeclared)
    (site isDeclaredToo)

/-- The names of the declarations of a program stand in its text. -/
theorem origin_of_declaredSpan?
    {occurrence : Occurrence}
    (present : occurrence ∈ program.occurrences)
    {span : Span}
    (declared : declaredSpan? occurrence.node = some span) : span.origin = origin := by
  rw [Program.mem_occurrences_iff] at present
  obtain ⟨_ | ⟨index, address⟩, node⟩ := occurrence
  · simp [Program.subtree?] at present
  obtain ⟨item, isItem, found⟩ := (subtreeAmong?_eq_some_iff _ _ _ _).mp present
  have inNode := (inOrder.of_mem (List.mem_of_getElem? isItem)).subtree found
  cases node <;> simp only [declaredSpan?, Option.some.injEq, reduceCtorEq] at declared
  obtain ⟨belongs, _⟩ := inNode.exists_of_function
  exact declared ▸ belongs

end

end Extraction
end ErrorTemplates
