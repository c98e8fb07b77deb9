import ErrorTemplates.Proofs.Extraction.Settled

/-!
# What is noticed again

When no call passes arguments through, a visit of what is left of a tree notices what the visit
of the tree noticed, apart from the calls that lost their messages. Such a call has one argument
left and makes no error any more, and removing messages neither lets another call make an error
nor changes what a throw statement hides. The name of the factory must not end in the suffix: a
call of the factory with a code and a message would otherwise be left as a callee that makes
errors.
-/

namespace ErrorTemplates
namespace Extraction

open Program

/-! ## Events that pass nothing through -/

/-- The event is harmless, and a call that loses its message by it has only one other
argument. -/
def Event.PassesNothing (event : Event) : Prop :=
  event.isFatal = false ∧
    ∀ errorCall, event.losingCall? = some errorCall -> errorCall.call.arguments.length = 2

/-- None of the events is fatal or passes arguments through. -/
def PassNothing (events : List Event) : Prop := ∀ event ∈ events, event.PassesNothing

@[simp] theorem passesNothing_inChild_iff (index : Nat) (event : Event) :
    (event.inChild index).PassesNothing ↔ event.PassesNothing := by
  rcases event with ⟨errorCall, _ | _⟩ | _ <;>
    simp [Event.PassesNothing, Event.losingCall?, Event.inChild, ErrorCall.inChild,
      Event.isFatal, ErrorCall.folded?]

@[simp] theorem passNothing_append_iff (first second : List Event) :
    PassNothing (first ++ second) ↔ PassNothing first ∧ PassNothing second :=
  List.forall_mem_append

@[simp] theorem passNothing_map_inChild_iff (index : Nat) (events : List Event) :
    PassNothing (events.map (Event.inChild index)) ↔ PassNothing events := by
  simp [PassNothing]

theorem harmless_of_passNothing {events : List Event} (passes : PassNothing events) :
    Harmless events :=
  fun event present => (passes event present).1

/-- A call that loses its message and passes nothing through has a constant code and a constant
message, and that is all. -/
theorem exists_constants_of_passNothing
    {naming : Naming}
    {call : Call}
    {found : Match}
    (passes : PassNothing (callEvent? naming false call).toList)
    (recognised : naming.match? call.callee call.arguments = some found) :
    ∃ code message codeText messageText, call.arguments = [code, message] ∧
      constant? code = some codeText ∧ constant? message = some messageText := by
  let errorCall : ErrorCall := { address := [], call, found }
  have isEvent : Event.makes errorCall false ∈ (callEvent? naming false call).toList := by
    simp [callEvent?, recognised, errorCall]
  obtain ⟨harmless, two⟩ := passes _ isEvent
  have length_eq : call.arguments.length = 2 := two errorCall rfl
  obtain ⟨_, arguments_eq, _⟩ := (naming.match?_eq_some_iff _ _ _).mp recognised
  obtain ⟨entry, folds⟩ : ∃ entry, errorCall.folded? = some entry := by
    simpa [Event.isFatal, Option.isSome_iff_exists] using harmless
  obtain ⟨_, codeConstant, messageConstant⟩ := (errorCall.folded?_eq_some_iff entry).mp folds
  have noneTrailing : found.trailing = [] := by
    rw [arguments_eq] at length_eq
    simpa using length_eq
  rw [noneTrailing] at arguments_eq
  exact ⟨_, _, _, _, arguments_eq, codeConstant, messageConstant⟩

/-- The events of a call outside of an operand pass nothing through if its own event does not
and neither do those of its callee and its arguments. -/
theorem passNothing_trace_call
    {naming : Naming}
    {place : Place}
    {span : Span}
    {callee : Node}
    {arguments : List Node}
    (notOperand : place ≠ .operand)
    (passes : PassNothing (trace naming place (.call span callee arguments))) :
    PassNothing (callEvent? naming (place == .wrapped) { span, callee, arguments }).toList ∧
      PassNothing (trace naming .plain callee) ∧
      PassNothing (traceAll naming .plain 1 arguments) := by
  simpa [trace, notOperand] using passes

/-! ## Callees and operands -/

section
variable {naming : Naming} (plainFactory : naming.space? naming.factory = none)
include plainFactory

/-- A name that makes errors is not the name of the factory. -/
theorem isFactory_of_maker?_eq_some
    {callee : Node}
    {maker : Maker}
    (makes : naming.maker? callee = some maker) : naming.isFactory callee = false := by
  rw [Bool.eq_false_iff]
  intro isFactory
  obtain ⟨span, rfl⟩ := (naming.isFactory_eq_true_iff callee).mp isFactory
  simp [Naming.maker?, plainFactory] at makes

/-- A callee stands for the same name space after messages were removed from it. -/
theorem maker?_settled
    {callee : Node}
    (passes : PassNothing (trace naming .plain callee)) :
    naming.maker? (settled naming .plain callee) = naming.maker? callee := by
  cases callee with
  | call span called arguments =>
      rw [settled, if_neg (by simp)]
      cases recognised : naming.match? called arguments with
      | some found =>
          obtain ⟨ownPasses, _, _⟩ := passNothing_trace_call (by simp) passes
          obtain ⟨code, message, _, _, arguments_eq, _, _⟩ :=
            exists_constants_of_passNothing ownPasses recognised
          obtain ⟨makes, _, _⟩ := (naming.match?_eq_some_iff _ _ _).mp recognised
          have notFactory := isFactory_of_maker?_eq_some plainFactory makes
          obtain rfl : arguments = [code, message] := arguments_eq
          simp [Naming.maker?, allSettled, notFactory]
      | none =>
          rcases arguments with _ | ⟨argument, _ | ⟨next, rest⟩⟩ <;>
            simp [Naming.maker?, allSettled]
  | construct => rw [settled, if_neg (by simp)]; rfl
  | _ => rfl

/-- A call that keeps its arguments makes an error as before. -/
theorem makesError_call_allSettled
    {callee : Node}
    (passes : PassNothing (trace naming .plain callee))
    (span : Span)
    (arguments : List Node) :
    makesError naming
        (.call span (settled naming .plain callee) (allSettled naming .plain arguments)) =
      makesError naming (.call span callee arguments) :=
  makesError_call_eq (by rw [maker?_settled plainFactory passes])
    (argumentViews_allSettled naming .plain arguments) span span

/-- A wrapped call makes an error as before. -/
theorem makesError_settled_wrapped
    {node : Node}
    (passes : PassNothing (trace naming .wrapped node)) :
    makesError naming (settled naming .wrapped node) = makesError naming node := by
  fun_induction Node.bare node with
  | case1 span inner innerHypothesis =>
      rw [trace, passNothing_map_inChild_iff] at passes
      exact innerHypothesis passes
  | case2 node notParens =>
      cases node with
      | parens span inner => exact absurd rfl (notParens span inner)
      | call span callee arguments =>
          obtain ⟨_, calleePasses, _⟩ := passNothing_trace_call (by simp) passes
          rw [settled, if_neg (by simp), if_neg (by simp)]
          exact makesError_call_allSettled plainFactory calleePasses span arguments
      | construct => rw [settled, if_neg (by simp)]; rfl
      | _ => rfl

/-- What makes no error makes none after messages were removed from it. -/
theorem makesError_settled_plain
    {node : Node}
    (passes : PassNothing (trace naming .plain node))
    (makesNone : makesError naming node = false) :
    makesError naming (settled naming .plain node) = false := by
  fun_induction Node.bare node with
  | case1 span inner innerHypothesis =>
      rw [trace, passNothing_map_inChild_iff] at passes
      exact innerHypothesis passes makesNone
  | case2 node notParens =>
      cases node with
      | parens span inner => exact absurd rfl (notParens span inner)
      | call span callee arguments =>
          obtain ⟨_, calleePasses, _⟩ := passNothing_trace_call (by simp) passes
          have notRecognised : (naming.match? callee arguments).isSome = false := makesNone
          rw [settled, if_neg (by simp), if_neg (by simp [notRecognised]),
            makesError_call_allSettled plainFactory calleePasses]
          exact makesNone
      | construct => rw [settled, if_neg (by simp)]; rfl
      | _ => rfl

/-- The operand of a throw statement that hides an error still does. -/
theorem hidesError_settled_operand
    {operand : Node}
    (passes : PassNothing (trace naming .operand operand)) :
    hidesError naming (settled naming .operand operand) = hidesError naming operand := by
  fun_induction Node.bare operand with
  | case1 span inner innerHypothesis =>
      rw [trace, passNothing_map_inChild_iff] at passes
      exact innerHypothesis passes
  | case2 node notParens =>
      cases node with
      | parens span inner => exact absurd rfl (notParens span inner)
      | call span callee arguments | construct span callee arguments =>
          rw [trace, if_pos rfl] at passes
          rw [settled, if_pos rfl, hidesError_eq, hidesError_eq]
          rcases arguments with _ | ⟨argument, _ | ⟨next, rest⟩⟩
          · rfl
          · have argumentPasses : PassNothing (trace naming .wrapped argument) := by
              simpa [traceAll] using passes
            simp only [Node.bare, allSettled,
              makesError_settled_wrapped plainFactory argumentPasses]
          · rfl
      | _ => rfl

/-- The operand of a throw statement that hides no error hides none after messages were removed
from it. -/
theorem hidesError_settled_plain
    {operand : Node}
    (passes : PassNothing (trace naming .plain operand))
    (hidesNone : hidesError naming operand = false) :
    hidesError naming (settled naming .plain operand) = false := by
  have sole {callee argument : Node} (argumentPasses : PassNothing (trace naming .plain argument))
      (hidesNone : (isErrorName callee && makesError naming argument) = false) :
      (isErrorName (settled naming .plain callee) &&
        makesError naming (settled naming .plain argument)) = false := by
    rw [isErrorName_settled]
    cases isError : isErrorName callee with
    | false => rfl
    | true =>
        rw [isError, Bool.true_and] at hidesNone
        rw [makesError_settled_plain plainFactory argumentPasses hidesNone, Bool.and_false]
  fun_induction Node.bare operand with
  | case1 span inner innerHypothesis =>
      rw [trace, passNothing_map_inChild_iff] at passes
      exact innerHypothesis passes hidesNone
  | case2 node notParens =>
      cases node with
      | parens span inner => exact absurd rfl (notParens span inner)
      | call span callee arguments =>
          obtain ⟨ownPasses, _, argumentsPass⟩ := passNothing_trace_call (by simp) passes
          rw [hidesError_eq] at hidesNone
          rw [settled, if_neg (by simp), hidesError_eq]
          rcases arguments with _ | ⟨code, _ | ⟨message, trailing⟩⟩
          · simp [Node.bare, allSettled]
          · have codePasses : PassNothing (trace naming .plain code) := by
              simpa [traceAll] using argumentsPass
            have notRecognised : naming.match? callee [code] = none := by
              simp [Naming.match?]
            simpa [notRecognised, Node.bare, allSettled] using sole codePasses hidesNone
          · cases recognised : naming.match? callee (code :: message :: trailing) with
            | none => simp [Node.bare, allSettled]
            -- Only the code is left of the arguments, and it is no call.
            | some found =>
                obtain ⟨_, _, _, _, arguments_eq, codeConstant, _⟩ :=
                  exists_constants_of_passNothing ownPasses recognised
                obtain ⟨rfl, rfl, rfl⟩ : _ ∧ _ ∧ _ := by simpa using arguments_eq
                simp [Node.bare, allSettled, settled_of_constant naming .plain codeConstant,
                  makesError_of_constant codeConstant]
      | construct span callee arguments =>
          have argumentsPass : PassNothing (traceAll naming .plain 1 arguments) := by
            simp [trace] at passes
            exact passes.2
          rw [hidesError_eq] at hidesNone
          rw [settled, if_neg (by simp), hidesError_eq]
          rcases arguments with _ | ⟨argument, _ | ⟨next, rest⟩⟩
          · rfl
          · have argumentPasses : PassNothing (trace naming .plain argument) := by
              simpa [traceAll] using argumentsPass
            exact sole argumentPasses hidesNone
          · rfl
      | _ => rfl

end

/-! ## What is noticed again -/

/-- What an event says wherever it takes place in a tree. -/
inductive Notice
  /-- A call is wrapped and thrown. -/
  | wraps (span : Span) (folded? : Option Entry)
  /-- A call loses its message. -/
  | loses
  /-- The factory is declared. -/
  | declares (nameSpan : Span)

/-- What an event says. -/
def Event.notice : Event -> Notice
  | .makes errorCall true => .wraps errorCall.call.span errorCall.folded?
  | .makes _ false => .loses
  | .declares _ nameSpan => .declares nameSpan

/-- The notice is not that of a call that loses its message. -/
def Notice.stays : Notice -> Bool
  | .loses => false
  | _ => true

/-- What events say apart from the calls that lose their messages. -/
def staying (events : List Event) : List Notice := (events.map Event.notice).filter Notice.stays

@[simp] theorem notice_inChild (index : Nat) (event : Event) :
    (event.inChild index).notice = event.notice := by
  rcases event with ⟨errorCall, _ | _⟩ | _ <;> rfl

@[simp] theorem map_notice_map_inChild (index : Nat) (events : List Event) :
    (events.map (Event.inChild index)).map Event.notice = events.map Event.notice := by
  simp [Function.comp_def]

@[simp] theorem staying_map_inChild (index : Nat) (events : List Event) :
    staying (events.map (Event.inChild index)) = staying events := by
  rw [staying, map_notice_map_inChild, staying]

@[simp] theorem staying_append (first second : List Event) :
    staying (first ++ second) = staying first ++ staying second := by
  rw [staying, List.map_append, List.filter_append, staying, staying]

/-- A visit of what is left of a node at a place notices what stays. -/
def Repeats (naming : Naming) (place : Place) (node : Node) : Prop :=
  PassNothing (trace naming place node) ->
    (trace naming place (settled naming place node)).map Event.notice =
      staying (trace naming place node)

theorem map_notice_traceAll_allSettled
    {naming : Naming}
    {place : Place}
    {start : Nat}
    {nodes : List Node}
    (repeats : ∀ node ∈ nodes, Repeats naming place node)
    (passes : PassNothing (traceAll naming place start nodes)) :
    (traceAll naming place start (allSettled naming place nodes)).map Event.notice =
      staying (traceAll naming place start nodes) := by
  induction nodes generalizing start with
  | nil => rfl
  | cons node rest inductionHypothesis =>
      obtain ⟨nodeRepeats, restRepeat⟩ := List.forall_mem_cons.mp repeats
      rw [traceAll, passNothing_append_iff, passNothing_map_inChild_iff] at passes
      rw [allSettled, traceAll, traceAll, List.map_append, map_notice_map_inChild,
        nodeRepeats passes.1, inductionHypothesis restRepeat passes.2, staying_append,
        staying_map_inChild]

/-- Calls that are recognised alike at the same place in a text are noticed alike. -/
theorem map_notice_callEvent?_eq
    {naming : Naming}
    (span : Span)
    {callee called : Node}
    {arguments given : List Node}
    (spaces : (naming.maker? callee).map Maker.space = (naming.maker? called).map Maker.space)
    (views : arguments.map argumentView = given.map argumentView)
    (isThrown : Bool) :
    (callEvent? naming isThrown { span, callee, arguments }).map Event.notice =
      (callEvent? naming isThrown { span, callee := called, arguments := given }).map
        Event.notice := by
  have outline_eq := outline_callEvent?_eq { span, callee, arguments }
    { span, callee := called, arguments := given } spaces views isThrown
  unfold callEvent? at outline_eq ⊢
  cases first : naming.match? callee arguments <;> cases second : naming.match? called given <;>
    simp only [first, second, Option.map_none, Option.map_some, reduceCtorEq] at outline_eq ⊢
  cases isThrown with
  | false => rfl
  | true =>
      obtain ⟨_, _, _, folded_eq, _⟩ := Outline.makes.inj (Option.some.inj outline_eq)
      rw [Event.notice, Event.notice, folded_eq]

section
variable {naming : Naming} (plainFactory : naming.space? naming.factory = none)
include plainFactory

omit plainFactory in
/-- A call that loses its message is not noticed again. The only argument that is left has no
events. -/
theorem repeats_losing_call
    {callee : Node}
    {arguments : List Node}
    {span : Span}
    {found : Match}
    (recognised : naming.match? callee arguments = some found)
    (ownPasses : PassNothing (callEvent? naming false { span, callee, arguments }).toList)
    (calleeRepeats : (trace naming .plain (settled naming .plain callee)).map Event.notice =
      staying (trace naming .plain callee)) :
    (trace naming .plain (settled naming .plain (.call span callee arguments))).map Event.notice =
      staying (trace naming .plain (.call span callee arguments)) := by
  obtain ⟨code, message, _, _, rfl, codeConstant, messageConstant⟩ :=
    exists_constants_of_passNothing ownPasses recognised
  have left_eq : settled naming .plain (.call span callee [code, message]) =
      .call span (settled naming .plain callee) [code] := by
    simp [settled, recognised, allSettled, settled_of_constant naming .plain codeConstant]
  have bothConstant (start : Nat) : traceAll naming .plain start [code, message] = [] := by
    simp [traceAll, trace_of_constant naming .plain codeConstant,
      trace_of_constant naming .plain messageConstant]
  have codeConstant (start : Nat) : traceAll naming .plain start [code] = [] := by
    simp [traceAll, trace_of_constant naming .plain codeConstant]
  have noEvent : callEvent? naming false
      { span, callee := settled naming .plain callee, arguments := [code] } = none := by
    simp [callEvent?, Naming.match?]
  have staysNot : staying (callEvent? naming false
      { span, callee, arguments := [code, message] }).toList = [] := by
    simp only [callEvent?, recognised]
    rfl
  have notOperand : Place.plain ≠ .operand := by simp
  have notWrapped : (Place.plain == .wrapped) = false := rfl
  rw [left_eq, trace, trace, if_neg notOperand, if_neg notOperand, notWrapped, bothConstant,
    codeConstant, noEvent, staying_append, staysNot, List.append_nil, List.append_nil,
    staying_map_inChild, ← calleeRepeats]
  exact map_notice_map_inChild 0 _

/-- A call that does not lose its message is noticed again. -/
theorem map_notice_callEvent?_settled
    {place : Place}
    {callee : Node}
    {arguments : List Node}
    (isPlace : place ≠ .operand)
    (keeps : ¬ (place = .plain ∧ (naming.match? callee arguments).isSome))
    (calleePasses : PassNothing (trace naming .plain callee))
    (span : Span) :
    ((callEvent? naming (place == .wrapped)
        { span, callee := settled naming .plain callee,
          arguments := allSettled naming .plain arguments }).toList).map Event.notice =
      staying (callEvent? naming (place == .wrapped) { span, callee, arguments }).toList := by
  have own_eq := map_notice_callEvent?_eq span
    (congrArg (Option.map Maker.space) (maker?_settled plainFactory calleePasses))
    (argumentViews_allSettled naming .plain arguments) (place == .wrapped)
  rw [staying, ← Option.toList_map, ← Option.toList_map, own_eq]
  refine (List.filter_eq_self.mpr fun notice present => ?_).symm
  obtain ⟨event, isEvent, rfl⟩ := Option.map_eq_some_iff.mp (Option.mem_toList.mp present)
  obtain ⟨found, recognised, rfl⟩ := Option.map_eq_some_iff.mp isEvent
  cases place with
  | operand => exact absurd rfl isPlace
  | plain => simp [recognised] at keeps
  | wrapped => rfl

theorem repeats_call
    {place : Place}
    {callee : Node}
    {arguments : List Node}
    (inner : ∀ child ∈ callee :: arguments, ∀ place, Repeats naming place child)
    (span : Span) : Repeats naming place (.call span callee arguments) := by
  intro passes
  have argumentsRepeat (place : Place) : ∀ argument ∈ arguments, Repeats naming place argument :=
    fun argument present => inner argument (List.mem_cons_of_mem _ present) place
  by_cases isOperand : place = .operand
  · simp only [trace, isOperand, if_true] at passes
    simp only [trace, settled, isOperand, if_true]
    exact map_notice_traceAll_allSettled (argumentsRepeat .wrapped) passes
  · obtain ⟨ownPasses, calleePasses, argumentsPass⟩ := passNothing_trace_call isOperand passes
    have calleeRepeats := inner callee List.mem_cons_self .plain calleePasses
    by_cases loses : place = .plain ∧ (naming.match? callee arguments).isSome
    · obtain ⟨rfl, isRecognised⟩ := loses
      obtain ⟨found, recognised⟩ := Option.isSome_iff_exists.mp isRecognised
      exact repeats_losing_call recognised ownPasses calleeRepeats
    · have keepsEvent :=
        map_notice_callEvent?_settled plainFactory isOperand loses calleePasses span
      simp only [trace, settled, isOperand, loses, if_false, List.map_append, staying_append,
        map_notice_map_inChild, staying_map_inChild, keepsEvent, calleeRepeats,
        map_notice_traceAll_allSettled (argumentsRepeat .plain) argumentsPass]

omit plainFactory in
theorem repeats_construct
    {place : Place}
    {callee : Node}
    {arguments : List Node}
    (inner : ∀ child ∈ callee :: arguments, ∀ place, Repeats naming place child)
    (span : Span) : Repeats naming place (.construct span callee arguments) := by
  intro passes
  have argumentsRepeat (place : Place) : ∀ argument ∈ arguments, Repeats naming place argument :=
    fun argument present => inner argument (List.mem_cons_of_mem _ present) place
  by_cases isOperand : place = .operand
  · simp only [trace, isOperand, if_true] at passes
    simp only [settled, trace, isOperand, if_true]
    exact map_notice_traceAll_allSettled (argumentsRepeat .wrapped) passes
  · simp only [trace, isOperand, if_false, passNothing_append_iff,
      passNothing_map_inChild_iff] at passes
    have callee_eq := inner callee List.mem_cons_self .plain passes.1
    have arguments_eq := map_notice_traceAll_allSettled (argumentsRepeat .plain) passes.2
    simp only [settled, trace, isOperand, if_false, List.map_append, map_notice_map_inChild,
      staying_append, staying_map_inChild, callee_eq, arguments_eq]

omit plainFactory in
theorem repeats_function
    {place : Place}
    {signature : Signature}
    {parameters : List Node}
    {body : Node}
    (inner : ∀ child ∈ parameters ++ [body], Repeats naming .plain child)
    (span : Span) : Repeats naming place (.function span signature parameters body) := by
  intro passes
  obtain ⟨parametersPass, bodyPasses⟩ :
      PassNothing (traceAll naming .plain 0 parameters) ∧
        PassNothing (trace naming .plain body) := by
    simp only [trace, passNothing_append_iff, passNothing_map_inChild_iff] at passes
    exact passes.2
  have parameters_eq := map_notice_traceAll_allSettled
    (fun child present => inner child (List.mem_append_left _ present)) parametersPass
  have body_eq := inner body (by simp) bodyPasses
  have own_eq : (declarationEvent? naming signature).toList.map Event.notice =
      staying (declarationEvent? naming signature).toList := by
    unfold declarationEvent?
    split <;> rfl
  simp only [settled, trace, List.map_append, map_notice_map_inChild, staying_append,
    staying_map_inChild, parameters_eq, body_eq, own_eq]

/-- A visit of what is left of a node notices what stays, and nothing else. -/
theorem repeats (place : Place) (node : Node) : Repeats naming place node := by
  induction node using Node.induction_on_children generalizing place with
  | step node inductionHypothesis =>
      cases node with
      | identifier | string => exact fun _ => rfl
      | sum span left right =>
          intro passes
          obtain ⟨leftPasses, rightPasses⟩ : PassNothing (trace naming .plain left) ∧
              PassNothing (trace naming .plain right) := by
            simpa [trace] using passes
          have left_eq := inductionHypothesis left (by simp [Node.children]) .plain leftPasses
          have right_eq := inductionHypothesis right (by simp [Node.children]) .plain rightPasses
          simp only [settled, trace, List.map_append, map_notice_map_inChild, staying_append,
            staying_map_inChild, left_eq, right_eq]
      | parens span inner =>
          intro passes
          rw [trace, passNothing_map_inChild_iff] at passes
          have inner_eq := inductionHypothesis inner (by simp [Node.children]) place passes
          simp only [settled, trace, map_notice_map_inChild, staying_map_inChild, inner_eq]
      | spread span inner =>
          intro passes
          rw [trace, passNothing_map_inChild_iff] at passes
          have inner_eq := inductionHypothesis inner (by simp [Node.children]) .plain passes
          simp only [settled, trace, map_notice_map_inChild, staying_map_inChild, inner_eq]
      | throwing span operand =>
          intro passes
          rw [trace, passNothing_map_inChild_iff] at passes
          have operand_eq := inductionHypothesis operand (by simp [Node.children]) _ passes
          have hides_eq : hidesError naming (settled naming
              (if hidesError naming operand then .operand else .plain) operand) =
                hidesError naming operand := by
            cases hides : hidesError naming operand with
            | true =>
                simp only [hides, if_true] at passes ⊢
                rw [hidesError_settled_operand plainFactory passes, hides]
            | false =>
                simp only [hides, Bool.false_eq_true, if_false] at passes ⊢
                exact hidesError_settled_plain plainFactory passes hides
          simp only [settled, trace, map_notice_map_inChild, staying_map_inChild, hides_eq,
            operand_eq]
      | call span callee arguments => exact repeats_call plainFactory inductionHypothesis span
      | construct span callee arguments => exact repeats_construct inductionHypothesis span
      | function span signature parameters body =>
          exact repeats_function
            (fun child present => inductionHypothesis child present .plain) span
      | other span shape children =>
          intro passes
          rw [trace] at passes
          exact map_notice_traceAll_allSettled
            (fun child present => inductionHypothesis child present .plain) passes

end

end Extraction
end ErrorTemplates
