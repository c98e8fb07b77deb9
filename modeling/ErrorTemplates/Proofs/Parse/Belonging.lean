import ErrorTemplates.Proofs.Extraction.Locating
import ErrorTemplates.Proofs.Parse.Functions

/-!
# Nodes that belong to a text

Whatever is read from a text belongs to it: every node says that its span is a part of that text.
This is followed through the readers: a result meets a condition when the readers of its parts
give what meets theirs. Of readers that leave no nodes it is enough that they go on in the text.
-/

namespace ErrorTemplates
namespace Program

/-- A node and all nodes below it are parts of a text. -/
inductive Node.BelongsTo (origin : Origin) : Node -> Prop
  | intro
      {node : Node}
      (own : ∀ span ∈ node.spans, span.origin = origin)
      (below : ∀ child ∈ node.children, child.BelongsTo origin) : node.BelongsTo origin

/-- Nodes that all belong to a text. -/
abbrev AllBelongTo (origin : Origin) (nodes : List Node) : Prop :=
  ∀ node ∈ nodes, node.BelongsTo origin

namespace Node.BelongsTo

variable {origin : Origin} {node : Node}

theorem origin_eq (belongs : node.BelongsTo origin) :
    ∀ span ∈ node.spans, span.origin = origin := by
  obtain ⟨own, _⟩ := belongs
  exact own

theorem children (belongs : node.BelongsTo origin) : AllBelongTo origin node.children := by
  obtain ⟨_, below⟩ := belongs
  exact below

/-- A node with one span belongs to a text when that span and its children do. -/
theorem of_children
    (spans_eq : node.spans = [node.span])
    (own : node.span.origin = origin)
    (below : AllBelongTo origin node.children) : node.BelongsTo origin := by
  refine ⟨?_, below⟩
  rw [spans_eq, List.forall_mem_singleton]
  exact own

/-- A list of one node. -/
theorem alone (belongs : node.BelongsTo origin) : AllBelongTo origin [node] :=
  List.forall_mem_singleton.mpr belongs

/-- A list that begins with the node. -/
theorem followedBy
    {others : List Node}
    (belongs : node.BelongsTo origin)
    (othersBelong : AllBelongTo origin others) : AllBelongTo origin (node :: others) :=
  List.forall_mem_cons.mpr ⟨belongs, othersBelong⟩

theorem subtree?
    {address : Address}
    {found : Node}
    (belongs : node.BelongsTo origin)
    (isFound : node.subtree? address = some found) : found.BelongsTo origin := by
  induction address generalizing node with
  | nil =>
      obtain rfl := Option.some.inj isFound
      exact belongs
  | cons index address inductionHypothesis =>
      obtain ⟨child, isChild, isFound⟩ := Node.exists_child_of_subtree? isFound
      exact inductionHypothesis (belongs.children child (List.mem_of_getElem? isChild)) isFound

end Node.BelongsTo

theorem belongsTo_other
    {origin : Origin}
    {span : Span}
    {children : List Node}
    (own : span.origin = origin)
    (below : AllBelongTo origin children)
    (shape : Shape) : (Node.other span shape children).BelongsTo origin :=
  .of_children rfl own below

namespace Parse

/-! ## What readers keep -/

/-- A run of a reader stays in a text and gives what meets a condition, unless it fails. -/
def Kept (origin : Origin) (holds : α -> Prop) : EStateM.Result SyntaxError State α -> Prop
  | .ok result after => after.Sound ∧ after.origin = origin ∧ holds result
  | .error _ after => after.Sound ∧ after.origin = origin

/-- A reader stays in a text and gives what meets a condition, unless it fails. -/
def Keeps (origin : Origin) (holds : α -> Prop) (reader : Reader α) : Prop :=
  ∀ state : State, state.Sound -> state.origin = origin -> Kept origin holds (reader state)

/-- A reader gives a node of the text. -/
abbrev KeepsNode (origin : Origin) (reader : Reader Node) : Prop :=
  Keeps origin (Node.BelongsTo origin) reader

/-- A reader gives nodes of the text. -/
abbrev KeepsNodes (origin : Origin) (reader : Reader (List Node)) : Prop :=
  Keeps origin (AllBelongTo origin) reader

/-- A reader may give a node of the text. -/
abbrev KeepsOption (origin : Origin) (reader : Reader (Option Node)) : Prop :=
  Keeps origin (fun found => AllBelongTo origin found.toList) reader

/-- A reader that goes on in the text keeps it. -/
theorem Yields.keeps
    {content : α -> List Node}
    {reader : Reader α}
    (yields : Yields content reader)
    (origin : Origin) : Keeps origin (fun _ => True) reader := by
  rintro state sound rfl
  have leaves := yields state sound
  unfold Leaves at leaves
  cases ran : reader state with
  | ok result after =>
      rw [ran] at leaves
      exact ⟨leaves.sound, leaves.origin_eq, trivial⟩
  | error error after =>
      rw [ran] at leaves
      exact ⟨leaves.sound, leaves.origin_eq⟩

namespace Keeps

variable {origin : Origin} {holds : α -> Prop} {part : β -> Prop}
variable {reader : Reader β} {next : β -> Reader α}

theorem pure {result : α} (met : holds result) :
    Keeps origin holds (pure result : Reader α) :=
  fun _ sound origin_eq => ⟨sound, origin_eq, met⟩

/-- A reader that always fails gives nothing. -/
theorem of_fails
    {reader : Reader α}
    (fails : ∀ state, ∃ error, reader state = .error error state) : Keeps origin holds reader := by
  intro state sound origin_eq
  obtain ⟨error, failed⟩ := fails state
  rw [failed]
  exact ⟨sound, origin_eq⟩

/-- A step that reads something. -/
theorem read
    (keeps : Keeps origin part reader)
    (rest : ∀ result, part result -> Keeps origin holds (next result)) :
    Keeps origin holds (reader >>= next) := by
  intro state sound origin_eq
  have kept := keeps state sound origin_eq
  change Kept origin holds (EStateM.bind reader next state)
  unfold EStateM.bind
  cases ran : reader state with
  | ok result after =>
      rw [ran] at kept
      obtain ⟨afterSound, after_eq, met⟩ := kept
      exact rest result met after afterSound after_eq
  | error error after =>
      rw [ran] at kept
      exact kept

/-- A step that looks at the state. -/
theorem look
    {next : State -> Reader α}
    (rest : ∀ state : State, state.Sound -> state.origin = origin ->
      Kept origin holds (next state state)) : Keeps origin holds (get >>= next) :=
  rest

/-- A step that only goes on in the text. -/
theorem move
    {content : β -> List Node}
    (yields : Yields content reader)
    (rest : ∀ result, Keeps origin holds (next result)) : Keeps origin holds (reader >>= next) :=
  (yields.keeps origin).read fun result _ => rest result

/-- A result that is changed. -/
theorem map
    {change : β -> α}
    (keeps : Keeps origin part reader)
    (implies : ∀ result, part result -> holds (change result)) :
    Keeps origin holds (change <$> reader) := by
  intro state sound origin_eq
  have kept := keeps state sound origin_eq
  change Kept origin holds (EStateM.map change reader state)
  unfold EStateM.map
  cases ran : reader state with
  | ok result after =>
      rw [ran] at kept
      obtain ⟨afterSound, after_eq, met⟩ := kept
      exact ⟨afterSound, after_eq, implies result met⟩
  | error error after =>
      rw [ran] at kept
      exact kept

theorem inContext
    {reader : Reader α}
    (keeps : Keeps origin holds reader)
    (change : Context -> Context) : Keeps origin holds (inContext change reader) := by
  intro state sound origin_eq
  have kept := keeps { state with context := change state.context } ⟨sound.1, sound.2⟩ origin_eq
  unfold Parse.inContext
  cases ran : reader { state with context := change state.context } with
  | ok result after =>
      simp only [ran] at kept ⊢
      obtain ⟨afterSound, after_eq, met⟩ := kept
      exact ⟨⟨afterSound.1, afterSound.2⟩, after_eq, met⟩
  | error error after =>
      simp only [ran] at kept ⊢
      obtain ⟨afterSound, after_eq⟩ := kept
      exact ⟨⟨afterSound.1, afterSound.2⟩, after_eq⟩

theorem withIn {reader : Reader α} (keeps : Keeps origin holds reader) (allowed : Bool) :
    Keeps origin holds (withIn allowed reader) :=
  keeps.inContext _

theorem inFunction
    {reader : Reader α}
    (keeps : Keeps origin holds reader)
    (header : FunctionHeader) : Keeps origin holds (inFunction header reader) :=
  keeps.inContext _

theorem orElse
    {reader : Reader α}
    {value : α}
    (keeps : Keeps origin holds reader)
    (met : holds value) : Keeps origin holds (orElse reader value) := by
  intro state sound origin_eq
  have kept := keeps state sound origin_eq
  unfold Parse.orElse
  cases ran : reader state with
  | ok result after =>
      simp only [ran] at kept ⊢
      exact kept
  | error error after =>
      simp only [ran] at kept ⊢
      exact ⟨kept.1, kept.2, met⟩

/-- A step that converts what was read before. -/
theorem convert
    {outcome : Except SyntaxError β}
    (rest : ∀ result, outcome = .ok result -> Keeps origin holds (next result)) :
    Keeps origin holds (converted outcome >>= next) := by
  cases outcome with
  | error error => exact of_fails fun _ => ⟨error, rfl⟩
  | ok result => exact rest result rfl

end Keeps

/-! ## Single steps -/

theorem moves_get : Moves (get : Reader State) := fun _ sound => .start sound

theorem moves_here : Moves here := fun _ sound => .start sound

theorem moves_token : Moves token := fun _ sound => .start sound

theorem moves_allowsArrow : Moves allowsArrow := fun _ sound => .start sound

theorem moves_following : Moves following := fun _ sound => .start sound

theorem moves_afterLineBreak : Moves afterLineBreak := fun _ sound => .start sound

theorem moves_atMark (text : String) : Moves (atMark text) := fun _ sound => .start sound

theorem moves_atWord (name : String) : Moves (atWord name) := fun _ sound => .start sound

theorem moves_atArrow : Moves atArrow := fun _ sound => .start sound

section
variable {origin : Origin}

theorem keeps_fail {holds : α -> Prop} (cause : SyntaxCause) :
    Keeps origin holds (fail cause) :=
  .of_fails (exists_fail_eq cause)

theorem keeps_failWith {holds : α -> Prop} (cause : String -> SyntaxCause) :
    Keeps origin holds (failWith cause) :=
  .of_fails (exists_failWith_eq cause)

theorem keeps_failAt {holds : α -> Prop} (position : Nat) (cause : SyntaxCause) :
    Keeps origin holds (failAt position cause) :=
  .of_fails fun _ => ⟨_, rfl⟩

theorem keeps_spanFrom (start : Nat) :
    Keeps origin (fun span => span.origin = origin) (spanFrom start) :=
  fun _ sound origin_eq => ⟨sound, origin_eq, origin_eq⟩

/-- A node that is made of nodes of the text belongs to it. -/
theorem keepsNode_nodeFrom
    {children : List Node}
    (below : AllBelongTo origin children)
    (start : Nat)
    (shape : Shape) : KeepsNode origin (nodeFrom start shape children) :=
  (keeps_spanFrom start).read fun _ own => .pure (belongsTo_other own below shape)

theorem keepsNode_childless (start : Nat) (shape : Shape) :
    KeepsNode origin (nodeFrom start shape []) :=
  keepsNode_nodeFrom (List.forall_mem_nil _) start shape

/-- A name that was read up to the current token. -/
theorem keeps_name
    {holds : α -> Prop}
    {next : Span -> Reader α}
    (start : Nat)
    (name : String)
    (rest : ∀ span, (Node.identifier span name).BelongsTo origin ->
      Keeps origin holds (next span)) :
    Keeps origin holds (spanFrom start >>= next) :=
  (keeps_spanFrom start).read fun span own =>
    rest span (.of_children rfl own (List.forall_mem_nil _))

/-! ## Lists -/

theorem keepsNodes_elements
    {element : Reader (Option Node)}
    (keeps : KeepsOption origin element)
    (limit : Nat) : KeepsNodes origin (elements element limit) := by
  induction limit with
  | zero => exact keeps_fail _
  | succ limit inductionHypothesis =>
      refine keeps.read fun found belongs => ?_
      cases found with
      | none => exact .pure (List.forall_mem_nil _)
      | some node =>
          exact inductionHypothesis.read fun others othersBelong => .pure
            ((List.forall_mem_singleton.mp belongs).followedBy othersBelong)

theorem keepsNodes_many
    {element : Reader (Option Node)}
    (keeps : KeepsOption origin element) : KeepsNodes origin (many element) :=
  .move moves_get fun _ => keepsNodes_elements keeps _

/-- The end of a list gives no node. -/
theorem keepsOption_none : KeepsOption origin (pure none) :=
  .pure (List.forall_mem_nil _)

/-- An element of a list. -/
theorem KeepsNode.found
    {element : Reader Node}
    (keeps : KeepsNode origin element) :
    KeepsOption origin (do return some (← element)) :=
  keeps.read fun _ belongs => .pure belongs.alone

/-- A node that need not be there, but is. -/
theorem KeepsNode.optional
    {reader : Reader Node}
    (keeps : KeepsNode origin reader) : KeepsOption origin (some <$> reader) :=
  keeps.map fun _ belongs => belongs.alone

theorem KeepsNode.separated
    {element : Reader Node}
    (keeps : KeepsNode origin element)
    (close : String) : KeepsNodes origin (separated close element) := by
  refine .move (moves_passMark close) fun passed => ?_
  split
  · exact .pure (List.forall_mem_nil _)
  refine keeps.read fun first belongs => ?_
  refine (keepsNodes_many (.move (moves_passMark close) fun passed => ?_)).read
    fun others othersBelong => .pure (belongs.followedBy othersBelong)
  split
  · exact keepsOption_none
  refine .move (moves_needMark ",") fun _ => .move (moves_passMark close) fun passed => ?_
  split
  · exact keepsOption_none
  · exact keeps.found

/-- Each comma is followed by another element. -/
theorem KeepsNode.afterCommas
    {element : Reader Node}
    (keeps : KeepsNode origin element) :
    KeepsNodes origin
      (many do if ← passMark "," then return some (← element) else return none) := by
  refine keepsNodes_many (.move (moves_passMark ",") fun passed => ?_)
  split
  · exact keeps.found
  · exact keepsOption_none

end

end Parse
end Program
end ErrorTemplates
