import ErrorTemplates.Extraction.Run
import ErrorTemplates.Proofs.Extraction.Trace

/-!
# Visiting follows the trace

A visit makes the same progress as its trace and removes the messages that its trace removes,
whether it is ended by an error on the way or not. The tree that is left at the end follows
from the tree as it was at the beginning.
-/

namespace ErrorTemplates
namespace Extraction

open Program

@[simp] theorem run_pure_visit (value : α) (progress : Progress) :
    (pure value : Visit α).run progress = (value, progress) := rfl

@[simp] theorem run_bind_visit
    (action : Visit α)
    (next : α -> Visit β)
    (progress : Progress) :
    (action >>= next).run progress =
      (next (action.run progress).1).run (action.run progress).2 := rfl

@[simp] theorem run_modifyGet_visit
    (change : Progress -> α × Progress)
    (progress : Progress) :
    (modifyGet change : Visit α).run progress = change progress := rfl

theorem run_unlessStopped (node : Node) (visit : Visit Node) (progress : Progress) :
    (unlessStopped node visit).run progress =
      if progress.isStopped then (node, progress) else visit.run progress := by
  change (if progress.isStopped then pure node else visit : Visit Node).run progress = _
  cases progress.isStopped <;> rfl

/-- The visit of a node makes the progress of its trace and removes what its trace removes. -/
def Follows (naming : Naming) (sources : Sources) (place : Place) (node : Node) : Prop :=
  ∀ progress, (visit naming sources place node).run progress =
    (withoutMessagesAt (removed progress.isStopped (trace naming place node)) node,
      (trace naming place node).foldl (Event.apply sources) progress)

/-- What holds of each node in a list holds of the list. -/
theorem run_visitAll_of_follows
    {naming : Naming}
    {sources : Sources}
    {place : Place}
    {nodes : List Node}
    (follows : ∀ node ∈ nodes, Follows naming sources place node)
    (start : Nat)
    (progress : Progress) :
    (visitAll naming sources place nodes).run progress =
      (allWithoutMessagesAt
          (removed progress.isStopped (traceAll naming place start nodes)) start nodes,
        (traceAll naming place start nodes).foldl (Event.apply sources) progress) := by
  induction nodes generalizing start progress with
  | nil => rfl
  | cons node rest inductionHypothesis =>
      obtain ⟨nodeFollows, restFollows⟩ := List.forall_mem_cons.mp follows
      have elsewhere : ∀ event ∈ traceAll naming place (start + 1) rest, ∀ below,
          event.address ≠ start :: below := by
        intro event present below equal
        obtain ⟨index, _, later, address_eq⟩ := address_of_mem_traceAll present
        simp only [address_eq, List.cons.injEq] at equal
        omega
      have afterNode (index : Nat) (below : Address) (later : start + 1 ≤ index) :=
        removed_map_append_of_ne (Nat.ne_of_gt later) progress.isStopped
          (trace naming place node) (traceAll naming place (start + 1) rest) below
      have restSame := allWithoutMessagesAt_congr afterNode rest
      simp only [visitAll, run_bind_visit, run_pure_visit, nodeFollows progress,
        inductionHypothesis restFollows (start + 1), traceAll, allWithoutMessagesAt,
        inChild_removed_map_append elsewhere, restSame, List.foldl_append,
        foldl_apply_map_inChild, isStopped_foldl_apply]

theorem run_visitAll_append
    (naming : Naming)
    (sources : Sources)
    (place : Place)
    (first second : List Node)
    (progress : Progress) :
    (visitAll naming sources place (first ++ second)).run progress =
      let visitedFirst := (visitAll naming sources place first).run progress
      let visitedSecond := (visitAll naming sources place second).run visitedFirst.2
      (visitedFirst.1 ++ visitedSecond.1, visitedSecond.2) := by
  induction first generalizing progress with
  | nil => rfl
  | cons node rest inductionHypothesis =>
      simp only [List.cons_append, visitAll, run_bind_visit, run_pure_visit,
        inductionHypothesis]

/-- A constant message makes no difference to the visit of the arguments around it. -/
theorem run_visitKept
    {naming : Naming}
    {sources : Sources}
    {message : Node}
    {text : String}
    (follows : Follows naming sources .plain message)
    (constant : constant? message = some text)
    (code : Node)
    (trailing : List Node)
    (progress : Progress) :
    (visitKept naming sources (code :: message :: trailing)).run progress =
      let visited := (visitAll naming sources .plain (code :: message :: trailing)).run progress
      (withoutMessage visited.1, visited.2) := by
  have messageKept (current : Progress) :
      (visit naming sources .plain message).run current = (message, current) := by
    rw [follows current, trace_of_constant naming .plain constant,
      withoutMessagesAt_of_constant _ constant, List.foldl_nil]
  simp only [visitKept, visitAll, run_bind_visit, run_pure_visit, messageKept,
    withoutMessage_cons_cons]

/-- To examine a call is to apply its event, which also says whether its message goes. -/
theorem examine_eq
    {progress : Progress}
    (running : progress.isStopped = false)
    (naming : Naming)
    (sources : Sources)
    (isThrown : Bool)
    (call : Call) :
    examine naming sources isThrown call progress =
      let own := (callEvent? naming isThrown call).toList
      (removed false own [], own.foldl (Event.apply sources) progress) := by
  unfold examine callEvent?
  cases recognised : naming.match? call.callee call.arguments with
  | none => simp [Selection.none]
  | some found =>
      let errorCall : ErrorCall := { address := [], call, found }
      have applied := Event.apply_makes running sources errorCall isThrown
      change judge sources isThrown errorCall.call.span errorCall.found progress =
        (removed false [.makes errorCall isThrown] [],
          Event.apply sources progress (.makes errorCall isThrown))
      cases folded : errorCall.folded? with
      | none =>
          rw [applied, folded, judge_of_folded?_eq_none folded]
          simp [removed, removals, Event.isFatal, folded]
      | some entry =>
          rw [applied, folded, judge_of_folded?_eq_some folded]
          cases isThrown <;>
            simp [removed, removals, Event.isFatal, Event.removal?, Event.losingCall?, folded,
              errorCall]

/-- A call that loses its message has a constant one. -/
theorem exists_constant_of_removed_callEvent?
    {naming : Naming}
    {isThrown : Bool}
    {call : Call}
    (removes : removed false (callEvent? naming isThrown call).toList [] = true) :
    ∃ code message trailing text, call.arguments = code :: message :: trailing ∧
      constant? message = some text := by
  unfold callEvent? at removes
  cases recognised : naming.match? call.callee call.arguments with
  | none => simp [recognised, Selection.none] at removes
  | some found =>
      obtain ⟨_, arguments_eq, _⟩ := (naming.match?_eq_some_iff _ _ _).mp recognised
      let errorCall : ErrorCall := { address := [], call, found }
      cases folded : errorCall.folded? with
      | none => simp [recognised, removed, removals, Event.isFatal, errorCall, folded] at removes
      | some entry =>
          obtain ⟨_, _, constant⟩ := (errorCall.folded?_eq_some_iff entry).mp folded
          exact ⟨_, _, _, _, arguments_eq, constant⟩

section
variable {naming : Naming} {sources : Sources}

theorem follows_sum
    {left right : Node}
    (inner : ∀ child ∈ [left, right], Follows naming sources .plain child)
    (place : Place)
    (span : Span) : Follows naming sources place (.sum span left right) := by
  intro progress
  have visited := run_visitAll_of_follows inner 0 progress
  have traced : traceAll naming .plain 0 [left, right] =
      trace naming place (.sum span left right) := by
    simp [traceAll, trace]
  rw [traced] at visited
  have nodes_eq := congrArg Prod.fst visited
  have progress_eq := congrArg Prod.snd visited
  simp only [visitAll, run_bind_visit, run_pure_visit, allWithoutMessagesAt,
    List.cons.injEq] at nodes_eq progress_eq
  simp only [visit, run_bind_visit, run_pure_visit, withoutMessagesAt, nodes_eq, progress_eq]

theorem follows_construct
    {callee : Node}
    {arguments : List Node}
    (inner : ∀ child ∈ callee :: arguments, ∀ place, Follows naming sources place child)
    (place : Place)
    (span : Span) : Follows naming sources place (.construct span callee arguments) := by
  intro progress
  by_cases isOperand : place = .operand
  · have visited := run_visitAll_of_follows
      (fun child present => inner child (List.mem_cons_of_mem _ present) .wrapped) 1 progress
    simp only [visit, trace, isOperand, if_true, run_bind_visit, run_pure_visit, visited,
      withoutMessagesAt, inChild_removed_traceAll Nat.zero_lt_one, withoutMessagesAt_none]
  · have visited := run_visitAll_of_follows
      (fun child present => inner child present .plain) 0 progress
    have nodes_eq := congrArg Prod.fst visited
    have progress_eq := congrArg Prod.snd visited
    simp only [visitAll, run_bind_visit, run_pure_visit, allWithoutMessagesAt,
      List.cons.injEq] at nodes_eq progress_eq
    simp only [visit, trace, isOperand, if_false, run_bind_visit, run_pure_visit,
      withoutMessagesAt, nodes_eq, progress_eq]
    rfl

/-- The arguments of a call that loses its message are visited like any others. -/
theorem run_visitKept_of_removed
    {call : Call}
    {isThrown : Bool}
    (inner : ∀ child ∈ call.arguments, Follows naming sources .plain child)
    (removes : removed false (callEvent? naming isThrown call).toList [] = true)
    (progress : Progress) :
    (visitKept naming sources call.arguments).run progress =
      let visited := (visitAll naming sources .plain call.arguments).run progress
      (withoutMessage visited.1, visited.2) := by
  obtain ⟨code, message, trailing, text, arguments_eq, constant⟩ :=
    exists_constant_of_removed_callEvent? removes
  have messageFollows := inner message (by simp [arguments_eq])
  rw [arguments_eq]
  exact run_visitKept messageFollows constant code trailing progress

theorem follows_call
    {callee : Node}
    {arguments : List Node}
    (inner : ∀ child ∈ callee :: arguments, ∀ place, Follows naming sources place child)
    (place : Place)
    (span : Span) : Follows naming sources place (.call span callee arguments) := by
  intro progress
  cases stopped : progress.isStopped with
  | true => simp [visit, run_unlessStopped, stopped, foldl_apply_of_isStopped]
  | false =>
      by_cases isOperand : place = .operand
      · have visited := run_visitAll_of_follows
          (fun child present => inner child (List.mem_cons_of_mem _ present) .wrapped) 1 progress
        simp only [visit, run_unlessStopped, stopped, trace, isOperand, if_true,
          run_bind_visit, run_pure_visit, visited, withoutMessagesAt,
          inChild_removed_traceAll Nat.zero_lt_one, withoutMessagesAt_none,
          removed_traceAll_nil, Bool.false_eq_true, if_false]
      · -- The call is examined before its children are visited, so that its own event is the
        -- first one and speaks of the callee and the arguments as they were.
        let call : Call := { span, callee, arguments }
        let own := (callEvent? naming (place == .wrapped) call).toList
        let children := traceAll naming .plain 0 (callee :: arguments)
        let after := own.foldl (Event.apply sources) progress
        have examined : examine naming sources (place == .wrapped) { span, callee, arguments }
            progress = (removed false own [], after) :=
          examine_eq stopped naming sources (place == .wrapped) call
        have visited := run_visitAll_of_follows
          (fun child present => inner child present .plain) 0 after
        have traced : trace naming place (.call span callee arguments) = own ++ children := by
          simp only [trace, isOperand, if_false]
          rfl
        have atRoot : removed false (own ++ children) [] = removed false own [] := by
          rw [removed_append, removed_traceAll_nil, Bool.or_false]
        have ownAtRoot : ∀ event ∈ own, event.address = [] :=
          fun _ present => address_of_mem_callEvent? present
        have childrenSame := allWithoutMessagesAt_root_append ownAtRoot sources progress children
          (callee :: arguments)
        have nodes_eq := congrArg Prod.fst visited
        have progress_eq := congrArg Prod.snd visited
        simp only [visitAll, run_bind_visit, run_pure_visit] at nodes_eq progress_eq
        rw [← childrenSame, stopped] at nodes_eq
        simp only [allWithoutMessagesAt, List.cons.injEq] at nodes_eq
        rw [traced, List.foldl_append]
        simp only [visit, run_unlessStopped, stopped, isOperand, if_false, Bool.false_eq_true,
          run_bind_visit, run_modifyGet_visit, examined, withoutMessagesAt, atRoot]
        cases removes : removed false own [] with
        | false =>
            simp only [if_false, Bool.false_eq_true, run_bind_visit, run_pure_visit, nodes_eq,
              progress_eq]
            rfl
        | true =>
            have kept (current : Progress) :
                (visitKept naming sources arguments).run current =
                  let visited := (visitAll naming sources .plain arguments).run current
                  (withoutMessage visited.1, visited.2) :=
              run_visitKept_of_removed
                (fun child present => inner child (List.mem_cons_of_mem _ present) .plain)
                removes current
            simp only [if_true, run_bind_visit, run_pure_visit, kept, nodes_eq, progress_eq]
            rfl

theorem follows_function
    {parameters : List Node}
    {body : Node}
    (inner : ∀ child ∈ parameters ++ [body], Follows naming sources .plain child)
    (place : Place)
    (span : Span)
    (signature : Signature) :
    Follows naming sources place (.function span signature parameters body) := by
  intro progress
  cases stopped : progress.isStopped with
  | true => simp [visit, run_unlessStopped, stopped, foldl_apply_of_isStopped]
  | false =>
      let own := (declarationEvent? naming signature).toList
      let children := traceAll naming .plain 0 (parameters ++ [body])
      let after := own.foldl (Event.apply sources) progress
      have recorded : (visit naming sources place (.function span signature parameters body)).run
          progress =
        (do
          let parameters ← visitAll naming sources .plain parameters
          let body ← visit naming sources .plain body
          return Node.function span signature parameters body : Visit Node).run after := by
        by_cases isFactory : signature.name = naming.factory
        · have after_eq : after = progress.recordSite signature.nameSpan := by
            simp [after, own, declarationEvent?, isFactory, Event.apply_declares stopped]
          simp only [visit, run_unlessStopped, stopped, isFactory, if_true, after_eq]
          rfl
        · have after_eq : after = progress := by simp [after, own, declarationEvent?, isFactory]
          simp only [visit, run_unlessStopped, stopped, isFactory, if_false, after_eq]
          rfl
      have visited := run_visitAll_of_follows inner 0 after
      have traced :
          trace naming place (.function span signature parameters body) = own ++ children := by
        simp [trace, own, children, traceAll_append, traceAll]
      have ownAtRoot : ∀ event ∈ own, event.address = [] :=
        fun _ present => address_of_mem_declarationEvent? present
      have childrenSame := allWithoutMessagesAt_root_append ownAtRoot sources progress children
        (parameters ++ [body])
      have nodes_eq := congrArg Prod.fst visited
      have progress_eq := congrArg Prod.snd visited
      rw [← childrenSame, stopped, allWithoutMessagesAt_append] at nodes_eq
      simp only [run_visitAll_append, visitAll, run_bind_visit, run_pure_visit]
        at nodes_eq progress_eq
      obtain ⟨parameters_eq, body_eq⟩ := List.append_inj' nodes_eq rfl
      simp only [allWithoutMessagesAt, List.cons.injEq, and_true, Nat.zero_add] at body_eq
      rw [traced, List.foldl_append, recorded]
      simp only [run_bind_visit, run_pure_visit, withoutMessagesAt, parameters_eq, body_eq,
        progress_eq]
      rfl

end

/-- Every visit makes the progress of its trace and removes what its trace removes. -/
theorem follows (naming : Naming) (sources : Sources) (place : Place) (node : Node) :
    Follows naming sources place node := by
  induction node using Node.induction_on_children generalizing place with
  | step node inductionHypothesis =>
      cases node with
      | identifier | string => exact fun _ => rfl
      | sum span left right =>
          exact follows_sum
            (fun child present => inductionHypothesis child present .plain) place span
      | parens span inner =>
          intro progress
          have innerFollows := inductionHypothesis inner (by simp [Node.children]) place
          simp only [visit, run_bind_visit, run_pure_visit, innerFollows progress,
            withoutMessagesAt, trace, inChild_removed_map, foldl_apply_map_inChild]
      | spread span inner =>
          intro progress
          have innerFollows := inductionHypothesis inner (by simp [Node.children]) .plain
          simp only [visit, run_bind_visit, run_pure_visit, innerFollows progress,
            withoutMessagesAt, trace, inChild_removed_map, foldl_apply_map_inChild]
      | throwing span operand =>
          intro progress
          have operandFollows := inductionHypothesis operand (by simp [Node.children])
            (if hidesError naming operand then .operand else .plain)
          cases stopped : progress.isStopped with
          | true => simp [visit, run_unlessStopped, stopped, foldl_apply_of_isStopped]
          | false =>
              simp only [visit, run_unlessStopped, stopped, run_bind_visit, run_pure_visit,
                operandFollows progress, withoutMessagesAt, trace, inChild_removed_map,
                foldl_apply_map_inChild, Bool.false_eq_true, if_false]
      | construct span callee arguments =>
          exact follows_construct inductionHypothesis place span
      | call span callee arguments => exact follows_call inductionHypothesis place span
      | function span signature parameters body =>
          exact follows_function
            (fun child present => inductionHypothesis child present .plain) place span signature
      | other span shape children =>
          intro progress
          have childrenFollow : ∀ child ∈ children, Follows naming sources .plain child :=
            fun child present => inductionHypothesis child present .plain
          have visited := run_visitAll_of_follows childrenFollow 0 progress
          simp only [visit, run_bind_visit, run_pure_visit, visited, withoutMessagesAt, trace]

/-- What a visit of all items of a program gives. -/
theorem visitProgram_eq (setup : Setup) (sources : Sources) (program : Program) :
    setup.visitProgram sources program =
      let events := traceAll setup.naming .plain 0 program.items
      (programWithoutMessagesAt (removed false events) program,
        events.foldl (Event.apply sources) .start) := by
  have visited := run_visitAll_of_follows
    (fun item (_ : item ∈ program.items) => follows setup.naming sources .plain item) 0 .start
  simp only [Setup.visitProgram, visited]
  rfl

end Extraction
end ErrorTemplates
