import ErrorTemplates.Proofs.Extraction.Abort
import ErrorTemplates.Proofs.Extraction.Alike
import ErrorTemplates.Proofs.Extraction.Callees

/-!
# The two forms of calls are interchangeable

A direct call may be written in the curried form: instead of the name with the suffix, what the
factory returns for the name space is called. Runs without a replacement do not tell the
programs apart, and what they leave differs in these callees only.
-/

namespace ErrorTemplates
namespace Extraction

open Diagnostic
open Program

/-! ## What a run removes -/

section
variable {naming : Naming} {program : Program}

/-- A run removes messages only from calls that make errors with a constant code and a constant
message. -/
theorem exists_errorCall_of_removed
    {address : Address}
    (removes : removed false (events naming program) address = true) :
    ∃ errorCall ∈ errorCalls naming program, errorCall.address = address ∧
      errorCall.folded? ≠ none := by
  rw [removed, List.contains_iff_mem] at removes
  obtain ⟨event, counted, isRemoval⟩ := List.mem_filterMap.mp removes
  have harmless := List.mem_takeWhile_imp counted
  have isEvent : event ∈ events naming program := (List.takeWhile_sublist _).subset counted
  obtain ⟨errorCall, loses, rfl⟩ := Option.map_eq_some_iff.mp isRemoval
  rcases event with ⟨made, _ | _⟩ | _
  · obtain rfl := Option.some.inj loses
    refine ⟨made, ?_, rfl, ?_⟩
    · rw [← filterMap_errorCall?_events]
      exact List.mem_filterMap.mpr ⟨_, isEvent, rfl⟩
    · simpa [Event.isFatal, Option.isSome_iff_ne_none] using harmless
  · simp [Event.losingCall?] at loses
  · simp [Event.losingCall?] at loses

/-- Only calls lose messages. -/
theorem exists_call_of_removed
    {address : Address}
    {found : Node}
    (removes : removed false (events naming program) address = true)
    (present : program.subtree? address = some found) :
    ∃ span callee arguments, found = .call span callee arguments := by
  obtain ⟨errorCall, isErrorCall, rfl, _⟩ := exists_errorCall_of_removed removes
  obtain ⟨isCall, _⟩ := (mem_errorCalls_iff naming program errorCall).mp isErrorCall
  exact ⟨_, _, _, Option.some.inj (present.symm.trans isCall)⟩

/-- A call that makes an error is in no message that a run removes. -/
theorem exists_shift?_of_mem_errorCalls
    {errorCall : ErrorCall}
    (present : errorCall ∈ errorCalls naming program) :
    ∃ moved, (removed false (events naming program)).shift? errorCall.address = some moved := by
  refine Selection.exists_shift? fun above rest address_eq => ?_
  rw [Bool.eq_false_iff]
  intro removes
  obtain ⟨outer, isOuter, rfl, folds⟩ := exists_errorCall_of_removed removes
  obtain ⟨entry, isEntry⟩ := Option.ne_none_iff_exists'.mp folds
  obtain ⟨_, _, constant⟩ := (outer.folded?_eq_some_iff entry).mp isEntry
  obtain ⟨outerCall, recognised⟩ := (mem_errorCalls_iff naming program outer).mp isOuter
  obtain ⟨_, arguments_eq, _⟩ := (naming.match?_eq_some_iff _ _ _).mp recognised
  obtain ⟨isCall, _⟩ := (mem_errorCalls_iff naming program errorCall).mp present
  rw [address_eq, Program.subtree?_append_of_some outerCall, Node.subtree?_cons,
    subtreeAmong?_eq_some_iff, Node.children, arguments_eq] at isCall
  obtain ⟨message, isMessage, inMessage⟩ := isCall
  obtain rfl : outer.found.message = message := Option.some.inj isMessage
  obtain ⟨part, partConstant⟩ := exists_constant?_of_subtree? constant inMessage
  simp at partConstant

end

/-! ## Other positions -/

/-- A tree looks like the tree without positions. -/
theorem alike_withoutSpans (naming : Naming) (node : Node) :
    Alike naming node node.withoutSpans := by
  have among {nodes : List Node} (within : ∀ child ∈ nodes, Alike naming child child.withoutSpans) :
      nodes.length = (allWithoutSpans nodes).length ∧
        Paired (Alike naming) nodes (allWithoutSpans nodes) := by
    rw [allWithoutSpans_eq_map]
    refine ⟨(List.length_map _).symm, fun index one other isOne isOther => ?_⟩
    rw [List.getElem?_map, isOne] at isOther
    obtain rfl := Option.some.inj isOther
    exact within one (List.mem_of_getElem? isOne)
  induction node using Node.induction_on_children with
  | step node inductionHypothesis =>
      cases node with
      | identifier => exact .identifier _ _ _
      | string => exact .string _ _ _ _ _
      | sum span left right =>
          exact .sum _ _ (inductionHypothesis left (by simp [Node.children]))
            (inductionHypothesis right (by simp [Node.children]))
      | parens span inner => exact .parens _ _ (inductionHypothesis inner (by simp [Node.children]))
      | spread span inner => exact .spread _ _ (inductionHypothesis inner (by simp [Node.children]))
      | call span callee arguments =>
          obtain ⟨calleeAlike, argumentsAlike⟩ := List.forall_mem_cons.mp inductionHypothesis
          exact .call _ _ calleeAlike (among argumentsAlike).1 (among argumentsAlike).2
      | construct span callee arguments =>
          obtain ⟨calleeAlike, argumentsAlike⟩ := List.forall_mem_cons.mp inductionHypothesis
          exact .construct _ _ calleeAlike (among argumentsAlike).1 (among argumentsAlike).2
      | throwing span operand =>
          exact .throwing _ _ (inductionHypothesis operand (by simp [Node.children]))
      | function span signature parameters body =>
          obtain ⟨parametersAlike, bodyAlike⟩ := List.forall_mem_append.mp inductionHypothesis
          exact .function _ _ rfl (among parametersAlike).1 (among parametersAlike).2
            (bodyAlike body (List.mem_singleton.mpr rfl))
      | other span shape children =>
          exact .other _ _ (among inductionHypothesis).1 (among inductionHypothesis).2

/-- Programs whose items look alike have events with the same outlines. -/
theorem outlines_events_eq
    {naming : Naming}
    {first second : Program}
    (length_eq : first.items.length = second.items.length)
    (among : Paired (Alike naming) first.items second.items) :
    (events naming first).map Event.outline = (events naming second).map Event.outline := by
  rw [← traceAll_items, ← traceAll_items]
  exact outlinesFrom_eq 0 length_eq fun index one other isOne isOther =>
    (among index one other isOne isOther).outlines_eq .plain

/-- The outlines of the events of a program do not depend on positions. -/
theorem outlines_events_eq_of_withoutSpans_eq
    {first second : Program}
    (same : first.withoutSpans = second.withoutSpans)
    (naming : Naming) :
    (events naming first).map Event.outline = (events naming second).map Event.outline := by
  have withoutSpans_eq (program : Program) : (events naming program).map Event.outline =
      (events naming program.withoutSpans).map Event.outline := by
    refine outlines_events_eq (by simp [Program.withoutSpans, allWithoutSpans_eq_map]) ?_
    intro index one other isOne isOther
    rw [Program.withoutSpans, allWithoutSpans_eq_map, List.getElem?_map, isOne] at isOther
    obtain rfl := Option.some.inj isOther
    exact alike_withoutSpans naming one
  rw [withoutSpans_eq first, same, ← withoutSpans_eq]

/-! ## Other callees -/

/-- Each of the callees is called instead of one that makes errors in the same name space, with
a code and a message at least. -/
def Callees.Fit (callees : Callees) (naming : Naming) (node : Node) : Prop :=
  ∀ address callee, callees address = some callee ->
    ∃ span former arguments maker another,
      node.subtree? address = some (.call span former arguments) ∧
        naming.maker? former = some maker ∧ naming.maker? callee = some another ∧
        maker.space = another.space ∧ 2 ≤ arguments.length

theorem Callees.Fit.inChild
    {callees : Callees}
    {naming : Naming}
    {node child : Node}
    {index : Nat}
    (fit : callees.Fit naming node)
    (found : node.children[index]? = some child) :
    (callees.inChild index).Fit naming child := by
  intro below callee replaced
  obtain ⟨span, former, arguments, maker, another, present, rest⟩ :=
    fit (index :: below) callee replaced
  rw [Node.subtree?_cons, subtreeAmong?_eq_some_iff] at present
  obtain ⟨same, isSame, presentBelow⟩ := present
  obtain rfl : child = same := Option.some.inj (found.symm.trans isSame)
  exact ⟨span, former, arguments, maker, another, presentBelow, rest⟩

theorem paired_allWithCallees
    {naming : Naming}
    {callees : Callees}
    (start : Nat)
    (nodes : List Node)
    (within : ∀ index child, nodes[index]? = some child ->
      Alike naming child (withCallees (callees.inChild (index + start)) child)) :
    nodes.length = (allWithCallees callees start nodes).length ∧
      Paired (Alike naming) nodes (allWithCallees callees start nodes) := by
  rw [allWithCallees_eq_mapIdx]
  exact paired_mapIdx nodes within

/-- A tree looks like the tree with other callees for the same name spaces. -/
theorem alike_withCallees
    {naming : Naming}
    {callees : Callees}
    {node : Node}
    (fit : callees.Fit naming node) : Alike naming node (withCallees callees node) := by
  induction node using Node.induction_on_children generalizing callees with
  | step node inductionHypothesis =>
      have inChild (index : Nat) (child : Node) (found : node.children[index]? = some child) :
          Alike naming child (withCallees (callees.inChild index) child) :=
        inductionHypothesis child (List.mem_of_getElem? found) (fit.inChild found)
      cases node with
      | identifier => exact .identifier _ _ _
      | string => exact .string _ _ _ _ _
      | sum span left right => exact .sum _ _ (inChild 0 left rfl) (inChild 1 right rfl)
      | parens span inner => exact .parens _ _ (inChild 0 inner rfl)
      | spread span inner => exact .spread _ _ (inChild 0 inner rfl)
      | call span callee arguments =>
          obtain ⟨length_eq, among⟩ := paired_allWithCallees 1 arguments
            fun index child found => inChild (index + 1) child found
          rw [withCallees]
          cases replaced : callees [] with
          | none => exact .call _ _ (inChild 0 callee rfl) length_eq among
          | some other =>
              obtain ⟨_, _, _, maker, another, isCall, makes, makesToo, space_eq, enough⟩ :=
                fit [] other replaced
              obtain ⟨rfl, rfl, rfl⟩ := Node.call.inj (Option.some.inj isCall)
              exact .makers _ _ makes makesToo space_eq enough length_eq among
      | construct span callee arguments =>
          obtain ⟨length_eq, among⟩ := paired_allWithCallees 1 arguments
            fun index child found => inChild (index + 1) child found
          exact .construct _ _ (inChild 0 callee rfl) length_eq among
      | throwing span operand => exact .throwing _ _ (inChild 0 operand rfl)
      | function span signature parameters body =>
          obtain ⟨length_eq, among⟩ := paired_allWithCallees 0 parameters
            fun index child found => inChild index child (by
              obtain ⟨inBounds, _⟩ := List.getElem?_eq_some_iff.mp found
              rw [Node.children, List.getElem?_append_left inBounds, found])
          exact .function _ _ rfl length_eq among
            (inChild parameters.length body (by simp [Node.children]))
      | other span shape children =>
          obtain ⟨length_eq, among⟩ := paired_allWithCallees 0 children
            fun index child found => inChild index child found
          exact .other _ _ length_eq among

/-- The callee is a call of the factory with a name space in quotes. -/
def IsQuotedMaker (naming : Naming) (space : String) (callee : Node) : Prop :=
  ∃ span factorySpan stringSpan raw,
    callee =
      .call span (.identifier factorySpan naming.factory) [.string stringSpan raw (some space)]

/-- Each of the callees is called instead of the name in a direct call, and says the same name
space in the curried form. -/
def Callees.CurryDirectCalls (callees : Callees) (naming : Naming) (program : Program) : Prop :=
  ∀ address callee, callees address = some callee ->
    ∃ errorCall ∈ errorCalls naming program, errorCall.address = address ∧
      errorCall.found.maker.form = .direct ∧
        IsQuotedMaker naming errorCall.found.maker.space callee

theorem maker?_of_isQuotedMaker
    {naming : Naming}
    {space : String}
    {callee : Node}
    (quoted : IsQuotedMaker naming space callee) :
    naming.maker? callee = some { form := .curried, space } := by
  obtain ⟨span, factorySpan, stringSpan, raw, rfl⟩ := quoted
  simp [Naming.maker?, Naming.isFactory]

section
variable {naming : Naming} {callees : Callees} {program : Program}
variable (curried : callees.CurryDirectCalls naming program)
include curried

theorem silent_of_curryDirectCalls : callees.Silent := by
  intro address callee replaced selection
  obtain ⟨errorCall, _, _, _, quoted⟩ := curried address callee replaced
  exact withoutMessagesAt_of_maker selection (maker?_of_isQuotedMaker quoted)

theorem fit_of_curryDirectCalls
    {index : Nat}
    {item : Node}
    (found : program.items[index]? = some item) : (callees.inChild index).Fit naming item := by
  intro below callee replaced
  obtain ⟨errorCall, present, address_eq, _, quoted⟩ := curried (index :: below) callee replaced
  obtain ⟨isCall, recognised⟩ := (mem_errorCalls_iff naming program errorCall).mp present
  obtain ⟨makes, arguments_eq, _⟩ := (naming.match?_eq_some_iff _ _ _).mp recognised
  rw [address_eq] at isCall
  obtain ⟨same, isSame, presentBelow⟩ := (subtreeAmong?_eq_some_iff _ _ _ _).mp isCall
  obtain rfl : item = same := Option.some.inj (found.symm.trans isSame)
  refine ⟨_, _, _, _, _, presentBelow, makes, maker?_of_isQuotedMaker quoted, rfl, ?_⟩
  rw [arguments_eq]
  exact Nat.le_add_left 2 _

/-- A program in which direct calls are written in the curried form has events with the same
outlines. -/
theorem outlines_events_programWithCallees :
    (events naming (programWithCallees callees program)).map Event.outline =
      (events naming program).map Event.outline := by
  obtain ⟨length_eq, among⟩ := paired_allWithCallees 0 program.items
    fun index item found => alike_withCallees (fit_of_curryDirectCalls curried found)
  exact (outlines_events_eq length_eq among).symm

/-- The program that a run leaves may have its callees replaced before or after the run. -/
theorem programWithoutMessagesAt_programWithCallees :
    let selection := removed false (events naming program)
    programWithoutMessagesAt selection (programWithCallees callees program) =
      programWithCallees (callees.after selection)
        (programWithoutMessagesAt selection program) := by
  intro selection
  have atTop : selection [] = false := by
    change removed false (events naming program) [] = false
    rw [← traceAll_items]
    exact removed_traceAll_nil false naming .plain 0 program.items
  refine congrArg (fun items => { program with items }) ?_
  refine allWithoutMessagesAt_allWithCallees 0 0 program.items
    (fun index => Callees.inChild_after (by rw [atTop, Bool.false_and]) callees) ?_
  intro index item found
  refine eitherOrder ?_ ?_
  · intro address inner selected present
    have removes : removed false (events naming program) (index :: address) = true := selected
    exact exists_call_of_removed removes
      ((subtreeAmong?_eq_some_iff _ _ _ _).mpr ⟨item, found, present⟩)
  · intro address callee replaced
    exact silent_of_curryDirectCalls curried (index :: address) callee replaced

end

/-! ## Runs -/

/-- Two runs end with the same table and the same counts, or with the same error. Locations
aside, they raise the same issues. -/
inductive EndAlike : Outcome -> Outcome -> Prop
  | completed
      (table : Table)
      (statistics : Statistics)
      {issues others : List Issue}
      (issues_eq : issues.map Issue.withoutLocation = others.map Issue.withoutLocation) :
      EndAlike (.completed table issues statistics) (.completed table others statistics)
  | aborted
      (location other : Text.Location)
      (space : String)
      (argument : Argument)
      {issues others : List Issue}
      (issues_eq : issues.map Issue.withoutLocation = others.map Issue.withoutLocation) :
      EndAlike (.aborted (.notConstant location space argument) issues)
        (.aborted (.notConstant other space argument) others)

/-- An aborted run ends with an argument that is not constant. -/
theorem exists_notConstant_of_aborted
    {setup : Setup}
    {source : Source}
    {program : Program}
    {error : Issue}
    {issues : List Issue}
    (aborted : (setup.run source program).1 = .aborted error issues) :
    ∃ location space argument, error = .notConstant location space argument := by
  obtain ⟨before, offender, first⟩ :=
    exists_firstOffender (exists_offends_of_aborted (Prod.ext aborted rfl))
  rw [run_of_firstOffender first] at aborted
  obtain ⟨rfl, _⟩ := Outcome.aborted.inj aborted
  exact ⟨_, _, _, rfl⟩

/-- Runs with the same result apart from locations end alike. -/
theorem endAlike_of_withoutLocations_eq
    {setup : Setup}
    {source : Source}
    {program : Program}
    {outcome : Outcome}
    (same : (setup.run source program).1.withoutLocations = outcome.withoutLocations) :
    EndAlike (setup.run source program).1 outcome := by
  cases ended : (setup.run source program).1 with
  | completed table issues statistics =>
      rw [ended] at same
      cases outcome with
      | completed =>
          obtain ⟨rfl, issues_eq, rfl⟩ := Outcome.completed.inj same
          exact .completed _ _ issues_eq
      | aborted => simp [Outcome.withoutLocations] at same
  | aborted error issues =>
      obtain ⟨location, space, argument, rfl⟩ := exists_notConstant_of_aborted ended
      rw [ended] at same
      cases outcome with
      | completed => simp [Outcome.withoutLocations] at same
      | aborted other others =>
          obtain ⟨error_eq, issues_eq⟩ := Outcome.aborted.inj same
          cases other with
          | notConstant otherLocation otherSpace otherArgument =>
              obtain ⟨_, rfl, rfl⟩ := Issue.notConstant.inj error_eq
              exact .aborted _ _ _ _ issues_eq
          | _ => simp [Issue.withoutLocation] at error_eq

/-- Direct calls may be written in the curried form, all of them or some, and a program that
differs in nothing else but positions has a run that ends alike. It leaves the program that is
left without them, in which the same calls are written in the curried form: none of these is in
a message that was removed, so each is found again. -/
theorem forms_interchangeable
    {naming : Naming}
    {callees : Callees}
    {program other : Program}
    (curried : callees.CurryDirectCalls naming program)
    (same : other.withoutSpans = (programWithCallees callees program).withoutSpans)
    (source otherSource : Source) :
    let setup : Setup := { naming, replacement := none }
    let first := setup.run source program
    let second := setup.run otherSource other
    let selection := removed false (events naming program)
    let moved := callees.after selection
    EndAlike first.1 second.1 ∧
      first.2 = programWithoutMessagesAt selection program ∧
      second.2.withoutSpans = (programWithCallees moved first.2).withoutSpans ∧
      (∀ address callee, moved address = some callee ↔
        ∃ before, selection.shift? before = some address ∧ callees before = some callee) ∧
      ∀ before callee, callees before = some callee ->
        ∃ address, selection.shift? before = some address ∧ moved address = some callee := by
  intro setup first second selection moved
  have outlines_eq : (events naming program).map Event.outline =
      (events naming other).map Event.outline := by
    rw [outlines_events_eq_of_withoutSpans_eq same, outlines_events_programWithCallees curried]
  have selection_eq : removed false (events naming other) = selection :=
    removed_eq_of_outlines_eq outlines_eq.symm false
  have first_eq : first.2 = programWithoutMessagesAt selection program :=
    program_runOn naming (setup.sources source) program
  have second_eq : second.2 = programWithoutMessagesAt selection other := by
    rw [← selection_eq]
    exact program_runOn naming (setup.sources otherSource) other
  refine ⟨?_, first_eq, ?_, callees.after_eq_some_iff selection, ?_⟩
  · exact endAlike_of_withoutLocations_eq (withoutLocations_runOn_eq outlines_eq _ _)
  · calc second.2.withoutSpans
        = programWithoutMessagesAt selection other.withoutSpans := by
          rw [second_eq, withoutSpans_programWithoutMessagesAt]
      _ = (programWithoutMessagesAt selection
            (programWithCallees callees program)).withoutSpans := by
          rw [same, withoutSpans_programWithoutMessagesAt]
      _ = (programWithCallees moved first.2).withoutSpans := by
          rw [programWithoutMessagesAt_programWithCallees curried, first_eq]
  · intro before callee replaced
    obtain ⟨errorCall, present, rfl, _⟩ := curried before callee replaced
    obtain ⟨address, shifted⟩ := exists_shift?_of_mem_errorCalls present
    exact ⟨address, shifted,
      (callees.after_eq_some_iff selection address callee).mpr ⟨_, shifted, replaced⟩⟩

/-- The callee of the direct calls in the sample in the curried form. -/
def sampleCurried : Node :=
  .call (.between 7 20) (.identifier (.between 7 13) "minErr") [sampleString "foo"]

/-- The direct calls in the sample, of which one is wrapped, with their callees in the curried
form. -/
def sampleCallees : Callees := fun address =>
  if address = [0, 0] ∨ address = [1, 0, 1] then some sampleCurried else none

/-- The sample with both direct calls in the curried form leaves what the sample leaves, in
which both are in that form. -/
theorem forms_interchangeable_sample :
    let curried := programWithCallees sampleCallees sampleProgram
    let left := (sampleSetup.run sampleSource sampleProgram).2
    sampleCallees.CurryDirectCalls sampleNaming sampleProgram ∧
      EndAlike (sampleSetup.run sampleSource sampleProgram).1
        (sampleSetup.run sampleSource curried).1 ∧
      (sampleSetup.run sampleSource curried).2.withoutSpans =
        (programWithCallees sampleCallees left).withoutSpans := by
  intro curriedProgram left
  have curried : sampleCallees.CurryDirectCalls sampleNaming sampleProgram := by
    intro address callee replaced
    have quoted : IsQuotedMaker sampleNaming "foo" sampleCurried := ⟨_, _, _, _, rfl⟩
    have isDirect : address = [0, 0] ∨ address = [1, 0, 1] := by
      by_contra notDirect
      simp [sampleCallees, notDirect] at replaced
    obtain rfl : sampleCurried = callee := by simpa [sampleCallees, isDirect] using replaced
    have direct : ∀ place ∈ [[0, 0], [1, 0, 1]],
        ∃ errorCall ∈ errorCalls sampleNaming sampleProgram, errorCall.address = place ∧
          errorCall.found.maker = { form := .direct, space := "foo" } := by
      decide
    obtain ⟨errorCall, present, address_eq, maker_eq⟩ := direct address (by simpa using isDirect)
    exact ⟨errorCall, present, address_eq, by rw [maker_eq], by rw [maker_eq]; exact quoted⟩
  obtain ⟨endAlike, _, left_eq, _, _⟩ :=
    forms_interchangeable curried rfl sampleSource sampleSource
  refine ⟨curried, endAlike, left_eq.trans ?_⟩
  rfl

end Extraction
end ErrorTemplates
