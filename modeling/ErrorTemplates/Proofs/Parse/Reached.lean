import ErrorTemplates.Program.Parse.State
import ErrorTemplates.Proofs.Tree.TextOrder

/-!
# What readers leave behind

A reader never goes back in the text, not even when it fails, and the nodes that it gives
stand in text order between where it began and where it ended. This is followed through the
steps of a reader: the nodes that were read since some position are kept together with the
state that was reached, and each step adds those that it reads.
-/

namespace ErrorTemplates
namespace Program
namespace Parse

/-! ## Tokens -/

theorem bytes_pos {text : List Char} (nonempty : text ≠ []) : 0 < bytes text := by
  obtain ⟨character, rest, rfl⟩ := List.exists_cons_of_ne_nil nonempty
  exact Nat.add_pos_left (Char.utf8Size_pos character) (bytes rest)

theorem position_store (gap : Gap) (comment : Comment) (belongsAhead : Bool) :
    (gap.store comment belongsAhead).position = gap.position := by
  cases belongsAhead <;> rfl

/-- A gap is read forwards. -/
theorem le_position_read
    (previous : Option Token)
    (place : Gap.Place)
    (gap : Gap)
    (text : List Char) : gap.position ≤ (Gap.read previous place gap text).position := by
  fun_induction Gap.read previous place gap text <;>
    grind [Gap.moveBy, Gap.closeLine, Gap.closeBlock, position_store]

theorem token_word_ne_mark (position : Nat) (text : List Char) (mark : String) :
    (Scanned.word position text).token ≠ .mark mark := by
  grind [Scanned.word]

theorem token_string_ne_mark
    (position : Nat)
    (quote : Char)
    (following : List Char)
    (mark : String) : (Scanned.string position quote following).token ≠ .mark mark := by
  grind [Scanned.string]

theorem token_number_ne_mark (position : Nat) (text : List Char) (mark : String) :
    (Scanned.number position text).token ≠ .mark mark := by
  grind [Scanned.number]

theorem toList_ne_nil_of_markAt?
    {text : List Char}
    {mark : String}
    (found : Scanned.markAt? text = some mark) : mark.toList ≠ [] := by
  have nonempty : ∀ mark ∈ Scanned.marks, mark.toList ≠ [] := by decide
  exact nonempty mark (List.mem_of_find?_eq_some found)

/-- A mark takes up some text. -/
theorem text_next_ne_nil
    {position : Nat}
    {text : List Char}
    {mark : String}
    (isMark : (Scanned.next position text).token = .mark mark) :
    (Scanned.next position text).text ≠ [] := by
  fun_cases Scanned.next position text <;>
    grind [Scanned.next, token_word_ne_mark, token_string_ne_mark, token_number_ne_mark,
      toList_ne_nil_of_markAt?]

/-! ## States -/

/-- A token does not end before it begins, and a mark takes up some text. -/
structure State.Sound (state : State) : Prop where
  start_le_stop : state.start ≤ state.stop
  start_lt_stop_of_mark : ∀ mark, state.token = .mark mark -> state.start < state.stop

theorem sound_enter (state : State) (gap : Gap) : (state.enter gap).Sound := by
  refine ⟨Nat.le_add_right gap.position _, fun mark isMark => ?_⟩
  exact Nat.lt_add_of_pos_right (bytes_pos (text_next_ne_nil isMark))

theorem sound_advance (state : State) : state.advance.Sound := sound_enter _ _

theorem stop_le_start_advance (state : State) : state.stop ≤ state.advance.start := by
  let gap : Gap :=
    { rest := [], position := state.stop, lineBreak := false, behind := [], ahead := [] }
  exact le_position_read (some state.token) .outside gap state.rest

theorem sound_extend (state : State) {text : List Char} (nonempty : text ≠ []) :
    (state.extend text).Sound := by
  have longer : state.start < (state.extend text).stop :=
    Nat.lt_add_of_pos_right (bytes_pos nonempty)
  exact ⟨Nat.le_of_lt longer, fun _ _ => longer⟩

/-! ## Reaching a state -/

/-- A state that was reached by reading nodes of a text, which stand in order from a position
on. -/
structure Reached
    (origin : Origin)
    (first : Nat)
    (nodes : List Node)
    (state : State) : Prop where
  sound : state.Sound
  origin_eq : state.origin = origin
  inOrder : InTextOrder origin first nodes state.start

namespace Reached

variable {origin : Origin} {first : Nat} {nodes others : List Node} {state : State}

theorem start (sound : state.Sound) : Reached state.origin state.start [] state :=
  ⟨sound, rfl, .nil (Nat.le_refl _)⟩

theorem first_le_start (reached : Reached origin first nodes state) : first ≤ state.start :=
  reached.inOrder.first_le_last

theorem mono_left
    {earlier : Nat}
    (reached : Reached origin first nodes state)
    (isEarlier : earlier ≤ first) : Reached origin earlier nodes state :=
  ⟨reached.sound, reached.origin_eq, reached.inOrder.mono_left isEarlier⟩

/-- Nodes may be left out. -/
theorem sublist (reached : Reached origin first nodes state) (kept : others.Sublist nodes) :
    Reached origin first others state :=
  ⟨reached.sound, reached.origin_eq, reached.inOrder.of_sublist kept⟩

/-- All nodes may be forgotten. -/
theorem forget (reached : Reached origin first nodes state) : Reached origin first [] state :=
  ⟨reached.sound, reached.origin_eq, .nil reached.first_le_start⟩

theorem forget_left (reached : Reached origin first (nodes ++ others) state) :
    Reached origin first others state := by
  obtain ⟨middle, before, inOthers⟩ := reached.inOrder.exists_middle
  exact ⟨reached.sound, reached.origin_eq, inOthers.mono_left before.first_le_last⟩

/-- Nodes that were read after others follow them. -/
theorem append
    {after : State}
    (reached : Reached origin first nodes state)
    (further : Reached origin state.start others after) :
    Reached origin first (nodes ++ others) after :=
  ⟨further.sound, further.origin_eq, reached.inOrder.append further.inOrder⟩

theorem advance (reached : Reached origin first nodes state) :
    Reached origin first nodes state.advance := by
  have later := Nat.le_trans reached.sound.start_le_stop (stop_le_start_advance state)
  exact ⟨sound_advance state, reached.origin_eq, reached.inOrder.mono_right later⟩

theorem inContext (reached : Reached origin first nodes state) (context : Context) :
    Reached origin first nodes { state with context } :=
  ⟨⟨reached.sound.1, reached.sound.2⟩, reached.origin_eq, reached.inOrder⟩

theorem extend
    {text : List Char}
    (reached : Reached origin first nodes state)
    (nonempty : text ≠ []) : Reached origin first nodes (state.extend text) :=
  ⟨sound_extend state nonempty, reached.origin_eq, reached.inOrder⟩

/-- A node without children, of which no visit takes notice, may stand anywhere. -/
theorem cons
    {node : Node}
    (reached : Reached origin first nodes state)
    (unnoticed : node.isNoticeable = false)
    (childless : node.childrenInText = []) : Reached origin first (node :: nodes) state := by
  refine ⟨reached.sound, reached.origin_eq, .inner unnoticed ?_⟩
  rw [childless]
  exact reached.inOrder

/-- The children become a node of which no visit takes notice. -/
theorem node
    {node : Node}
    (reached : Reached origin first node.children state)
    (unnoticed : node.isNoticeable = false)
    (inOrder : node.lastStandsFirst = false) : Reached origin first [node] state := by
  rw [← Node.childrenInText_of_not_lastStandsFirst inOrder] at reached
  exact ⟨reached.sound, reached.origin_eq, reached.inOrder.singleton unnoticed⟩

/-- The last nodes become the children of a node of which no visit takes notice. -/
theorem lastNode
    {node : Node}
    (reached : Reached origin first (nodes ++ node.children) state)
    (unnoticed : node.isNoticeable = false)
    (inOrder : node.lastStandsFirst = false) : Reached origin first (nodes ++ [node]) state := by
  obtain ⟨middle, before, below⟩ := reached.inOrder.exists_middle
  have atNode := Reached.node ⟨reached.sound, reached.origin_eq, below⟩ unnoticed inOrder
  exact ⟨reached.sound, reached.origin_eq, before.append atNode.inOrder⟩

/-- The children become a node that is visited in another order than they were read. -/
theorem turnedNode
    {node last : Node}
    (reached : Reached origin first (last :: others) state)
    (unnoticed : node.isNoticeable = false)
    (turned : node.lastStandsFirst = true)
    (children_eq : node.children = others ++ [last]) : Reached origin first [node] state := by
  rw [← Node.childrenInText_of_lastStandsFirst turned children_eq] at reached
  exact ⟨reached.sound, reached.origin_eq, reached.inOrder.singleton unnoticed⟩

end Reached

/-! ## What a reader leaves -/

/-- What a run of a reader leaves: nodes that stand in order from a position on or, if it fails,
a state that does not come before another position. -/
def Left
    (origin : Origin)
    (first firstOfFailed : Nat)
    (content : α -> List Node) : EStateM.Result SyntaxError State α -> Prop
  | .ok result after => Reached origin first (content result) after
  | .error _ after => Reached origin firstOfFailed [] after

/-- A reader goes on from a state and leaves nodes that stand in order from a position on,
unless it fails. -/
def Leaves
    (origin : Origin)
    (first : Nat)
    (content : α -> List Node)
    (reader : Reader α)
    (state : State) : Prop :=
  Left origin first first content (reader state)

/-- Wherever a reader begins, the nodes in its result stand in order from there on. -/
def Yields (content : α -> List Node) (reader : Reader α) : Prop :=
  ∀ state : State, state.Sound -> Leaves state.origin state.start content reader state

/-- A reader goes forward without giving nodes. -/
abbrev Moves (reader : Reader α) : Prop := Yields (fun _ => []) reader

/-- A reader gives a node. -/
abbrev YieldsNode (reader : Reader Node) : Prop := Yields (fun node => [node]) reader

/-- A reader gives nodes. -/
abbrev YieldsNodes (reader : Reader (List Node)) : Prop := Yields (fun nodes => nodes) reader

/-- A reader begins by passing a mark, and the nodes in its result stand in order after where
that mark begins. -/
def Opens (content : α -> List Node) (reader : Reader α) : Prop :=
  ∀ state : State, state.Sound ->
    Left state.origin (state.start + 1) state.start content (reader state)

namespace Leaves

variable {origin : Origin} {first : Nat} {content : α -> List Node} {reader : Reader α}
variable {state : State}

theorem mono
    {weaker : α -> List Node}
    (leaves : Leaves origin first content reader state)
    (implies : ∀ result after, Reached origin first (content result) after ->
      Reached origin first (weaker result) after) : Leaves origin first weaker reader state := by
  unfold Leaves at leaves ⊢
  cases ran : reader state with
  | ok result after =>
      rw [ran] at leaves
      exact implies result after leaves
  | error error after =>
      rw [ran] at leaves
      exact leaves

theorem pure {result : α} (reached : Reached origin first (content result) state) :
    Leaves origin first content (pure result) state :=
  reached

/-- A step whose result is known, such as one that only looks at the state. -/
theorem look
    {looker : Reader β}
    {next : β -> Reader α}
    {found : β}
    {after : State}
    (looks : looker state = .ok found after)
    (rest : Leaves origin first content (next found) after) :
    Leaves origin first content (looker >>= next) state := by
  change Left origin first first content (EStateM.bind looker next state)
  unfold EStateM.bind
  rw [looks]
  exact rest

theorem bind
    {content : β -> List Node}
    {part : α -> List Node}
    {next : α -> Reader β}
    (leaves : Leaves origin first part reader state)
    (rest : ∀ result after, Reached origin first (part result) after ->
      Leaves origin first content (next result) after) :
    Leaves origin first content (reader >>= next) state := by
  change Left origin first first content (EStateM.bind reader next state)
  unfold Leaves at leaves
  unfold EStateM.bind
  cases ran : reader state with
  | ok result after =>
      rw [ran] at leaves
      exact rest result after leaves
  | error error after =>
      rw [ran] at leaves
      exact leaves

/-- What a reader leaves follows what was left before. -/
theorem following
    {earlier : Nat}
    {nodes : List Node}
    (inOrder : InTextOrder origin earlier nodes first)
    (leaves : Leaves origin first content reader state) :
    Leaves origin earlier (fun result => nodes ++ content result) reader state := by
  unfold Leaves at leaves ⊢
  cases ran : reader state with
  | ok result after =>
      rw [ran] at leaves
      exact ⟨leaves.sound, leaves.origin_eq, inOrder.append leaves.inOrder⟩
  | error error after =>
      rw [ran] at leaves
      exact ⟨leaves.sound, leaves.origin_eq, leaves.inOrder.mono_left inOrder.first_le_last⟩

end Leaves

/-! ## Steps from a state -/

namespace Reached

variable {origin : Origin} {first : Nat} {nodes : List Node} {state : State}
variable {content : α -> List Node} {part : β -> List Node}
variable {reader : Reader β} {next : β -> Reader α}
variable (reached : Reached origin first nodes state)
include reached

theorem leaves (yields : Yields part reader) :
    Leaves origin state.start part reader state :=
  reached.origin_eq ▸ yields state reached.sound

/-- A step that reads nodes. -/
theorem read
    (yields : Yields part reader)
    (rest : ∀ result after, Reached origin first (nodes ++ part result) after ->
      Leaves origin first content (next result) after) :
    Leaves origin first content (reader >>= next) state :=
  ((reached.leaves yields).following reached.inOrder).bind rest

/-- A step that reads nodes and changes their form. -/
theorem readMap
    {change : β -> γ}
    {next : γ -> Reader α}
    (yields : Yields part reader)
    (rest : ∀ result after, Reached origin first (nodes ++ part result) after ->
      Leaves origin first content (next (change result)) after) :
    Leaves origin first content (change <$> reader >>= next) state := by
  rw [bind_map_left]
  exact reached.read yields rest

/-- A step that reads no nodes. -/
theorem move
    (moves : Moves reader)
    (rest : ∀ result after, Reached origin first nodes after ->
      Leaves origin first content (next result) after) :
    Leaves origin first content (reader >>= next) state :=
  reached.read moves fun result after further =>
    rest result after (List.append_nil nodes ▸ further)

/-- A step that fails. -/
theorem stop
    (fails : ∃ error, reader state = .error error state) :
    Leaves origin first content (reader >>= next) state := by
  obtain ⟨error, failed⟩ := fails
  change Left origin first first content (EStateM.bind reader next state)
  unfold EStateM.bind
  rw [failed]
  exact reached.forget

/-- A step over a mark and what it opens. -/
theorem readOpened
    (opens : Opens part reader)
    (rest : ∀ result after, Reached origin (state.start + 1) (part result) after ->
      Leaves origin first content (next result) after) :
    Leaves origin first content (reader >>= next) state := by
  have opened := opens state reached.sound
  obtain rfl := reached.origin_eq
  change Left state.origin first first content (EStateM.bind reader next state)
  unfold EStateM.bind
  cases ran : reader state with
  | ok result after =>
      rw [ran] at opened
      exact rest result after opened
  | error error after =>
      rw [ran] at opened
      exact ⟨opened.sound, opened.origin_eq, opened.inOrder.mono_left reached.first_le_start⟩

/-- The last step. -/
theorem last
    {reader : Reader α}
    {part : α -> List Node}
    (yields : Yields part reader)
    (content_eq : ∀ result, nodes ++ part result = content result) :
    Leaves origin first content reader state :=
  ((reached.leaves yields).following reached.inOrder).mono fun result _ further =>
    content_eq result ▸ further

end Reached

namespace Yields

variable {content : α -> List Node} {reader : Reader α}

theorem intro
    (leaves : ∀ state, Reached state.origin state.start [] state ->
      Leaves state.origin state.start content reader state) :
    Yields content reader :=
  fun state sound => leaves state (.start sound)

theorem moves (yields : Yields content reader) : Moves reader :=
  fun state sound => (yields state sound).mono fun _ _ reached => reached.forget

theorem map
    {change : α -> β}
    {changed : β -> List Node}
    (yields : Yields content reader)
    (changed_eq : ∀ result, changed (change result) = content result) :
    Yields changed (change <$> reader) := by
  intro state sound
  have leaves := yields state sound
  change Left state.origin state.start state.start changed (EStateM.map change reader state)
  unfold Leaves at leaves
  unfold EStateM.map
  cases ran : reader state with
  | ok result after =>
      rw [ran] at leaves
      change Reached state.origin state.start (changed (change result)) after
      rw [changed_eq]
      exact leaves
  | error error after =>
      rw [ran] at leaves
      exact leaves

end Yields

/-- What a reader opens comes after where it began. -/
theorem Opens.yields
    {content : α -> List Node}
    {reader : Reader α}
    (opens : Opens content reader) : Yields content reader := by
  intro state sound
  have opened := opens state sound
  unfold Leaves
  cases ran : reader state with
  | ok result after =>
      rw [ran] at opened
      exact ⟨opened.sound, opened.origin_eq, opened.inOrder.mono_left (Nat.le_succ _)⟩
  | error error after =>
      rw [ran] at opened
      exact opened

end Parse
end Program
end ErrorTemplates
