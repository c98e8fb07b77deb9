import ErrorTemplates.Proofs.Extraction.Counters
import ErrorTemplates.Proofs.Extraction.Interchange
import ErrorTemplates.Proofs.Extraction.Reparenthesizing
import ErrorTemplates.Proofs.Extraction.Stripping

/-!
# Calls that are thrown in an error

A call that makes an error keeps its message and is warned of when it is the only argument of a
general error that is thrown, and in no other case. Parentheses around the call, around the
general error and around its name make no difference, and can be added and removed. What stands in
the other arguments of the call is not affected by the throw statement.
-/

namespace ErrorTemplates
namespace Extraction

open Diagnostic
open Program

/-! ## Calls that are thrown in an error -/

/-- The call at an address is thrown in an error: it is the only argument of a general error that
is the operand of a throw statement. There may be any parentheses around the call, around the error
and around its name. -/
def ThrownInError (subtree? : Address -> Option Node) (address : Address) : Prop :=
  ∃ above throwSpan around outer errorSpan named nameSpan inside span callee arguments,
    let error := enclosed named (.identifier nameSpan "Error")
    let argument := enclosed inside (.call span callee arguments)
    (outer = .call errorSpan error [argument] ∨ outer = .construct errorSpan error [argument]) ∧
      subtree? above = some (.throwing throwSpan (enclosed around outer)) ∧
      address =
        above ++ 0 :: (List.replicate around.length 0 ++ 1 :: List.replicate inside.length 0)

theorem isErrorName_eq_true_iff (callee : Node) :
    isErrorName callee = true ↔
      ∃ named span, callee = enclosed named (.identifier span "Error") := by
  constructor
  · intro isError
    rw [isErrorName] at isError
    split at isError
    · next span name isBare =>
      obtain rfl := beq_iff_eq.mp isError
      exact ⟨parensOf callee, span, by rw [← isBare, enclosed_parensOf]⟩
    · simp at isError
  · rintro ⟨named, span, rfl⟩
    rw [isErrorName, bare_enclosed]
    rfl

theorem bareAddress_enclosed (spans : List Span) (node : Node) :
    (enclosed spans node).bareAddress = List.replicate spans.length 0 ++ node.bareAddress := by
  induction spans with
  | nil => rfl
  | cons span rest inductionHypothesis => exact congrArg (0 :: ·) inductionHypothesis

/-- The way through the parentheses around a node has as many steps as there are parentheses. -/
theorem bareAddress_eq_replicate (node : Node) :
    node.bareAddress = List.replicate (parensOf node).length 0 := by
  fun_induction parensOf node with
  | case1 span inner innerHypothesis => exact congrArg (0 :: ·) innerHypothesis
  | case2 node notParens => exact Node.bareAddress_eq_nil notParens

/-- An operand wraps a call when it is a general error with the call as its only argument, apart
from parentheses. -/
theorem wrappedAddress?_eq_some_iff (operand : Node) (below : Address) :
    wrappedAddress? operand = some below ↔
      ∃ around outer errorSpan named nameSpan inside span callee arguments,
        let error := enclosed named (.identifier nameSpan "Error")
        let argument := enclosed inside (.call span callee arguments)
        (outer = .call errorSpan error [argument] ∨
          outer = .construct errorSpan error [argument]) ∧
          operand = enclosed around outer ∧
          below = List.replicate around.length 0 ++ 1 :: List.replicate inside.length 0 := by
  constructor
  · intro wraps
    obtain ⟨call, isCall⟩ := exists_wrappedCall? wraps
    obtain ⟨errorSpan, callee, argument, isBare, isError, argument_eq⟩ :=
      exists_of_wrappedCall?_eq_some isCall
    obtain ⟨named, nameSpan, callee_eq⟩ := (isErrorName_eq_true_iff callee).mp isError
    have children_eq : operand.bare.children = [callee, argument] := by
      rcases isBare with isBare | isBare <;> rw [isBare] <;> rfl
    have below_eq : operand.bareAddress ++ 1 :: argument.bareAddress = below := by
      simpa [wrappedAddress?, isCall, children_eq] using wraps
    refine ⟨parensOf operand, operand.bare, errorSpan, named, nameSpan, parensOf argument,
      call.span, call.callee, call.arguments, ?_, (enclosed_parensOf operand).symm, ?_⟩
    · rwa [← argument_eq, enclosed_parensOf, ← callee_eq]
    · rw [← below_eq, bareAddress_eq_replicate, bareAddress_eq_replicate]
  · rintro ⟨around, outer, errorSpan, named, nameSpan, inside, span, callee, arguments, isOuter,
      rfl, rfl⟩
    have isError : isErrorName (enclosed named (.identifier nameSpan "Error")) = true :=
      (isErrorName_eq_true_iff _).mpr ⟨named, nameSpan, rfl⟩
    rcases isOuter with rfl | rfl <;>
      simp [wrappedAddress?, wrappedCall?, Node.bare, isError, soleCall?, Node.children,
        bareAddress_enclosed, Node.bareAddress]

/-- The wrapped calls of a program are those that are thrown in an error. -/
theorem wrapped_iff_thrownInError (program : Program) (address : Address) :
    Wrapped program address ↔ ThrownInError program.subtree? address := by
  constructor
  · rintro ⟨above, throwSpan, operand, below, isThrow, wraps, rfl⟩
    obtain ⟨around, outer, errorSpan, named, nameSpan, inside, span, callee, arguments, isOuter,
      rfl, rfl⟩ := (wrappedAddress?_eq_some_iff operand below).mp wraps
    exact ⟨above, throwSpan, around, outer, errorSpan, named, nameSpan, inside, span, callee,
      arguments, isOuter, isThrow, rfl⟩
  · rintro ⟨above, throwSpan, around, outer, errorSpan, named, nameSpan, inside, span, callee,
      arguments, isOuter, isThrow, rfl⟩
    exact ⟨above, throwSpan, enclosed around outer, _, isThrow,
      (wrappedAddress?_eq_some_iff _ _).mpr ⟨around, outer, errorSpan, named, nameSpan, inside,
        span, callee, arguments, isOuter, rfl, rfl⟩, rfl⟩

instance (program : Program) (address : Address) :
    Decidable (ThrownInError program.subtree? address) :=
  decidable_of_iff _ (wrapped_iff_thrownInError program address)

/-- A step that the last part of a way does not have is taken before that part. -/
theorem exists_before_of_append_eq
    {above below top steps : Address}
    {index : Nat}
    (same : above ++ index :: below = top ++ steps)
    (absent : index ∉ steps) :
    ∃ rest, top = above ++ index :: rest ∧ below = rest ++ steps := by
  rcases List.append_eq_append_iff.mp same with ⟨later, top_eq, index_eq⟩ | ⟨earlier, _, steps_eq⟩
  · rcases later with _ | ⟨first, rest⟩
    · obtain rfl : index :: below = steps := index_eq
      exact absurd List.mem_cons_self absent
    · obtain ⟨rfl, below_eq⟩ := List.cons.inj index_eq
      exact ⟨rest, top_eq, below_eq⟩
  · rw [steps_eq] at absent
    exact absurd (List.mem_append_right _ List.mem_cons_self) absent

/-- Whether a call below the third child or a later one of a node is thrown in an error depends on
that child alone. -/
theorem thrownInError_append_iff
    {program : Program}
    {above : Address}
    {index : Nat}
    {argument : Node}
    (found : program.subtree? (above ++ [index]) = some argument)
    (beyond : 1 < index)
    (below : Address) :
    ThrownInError program.subtree? (above ++ index :: below) ↔
      ThrownInError argument.subtree? below := by
  have inArgument (rest : Address) :
      program.subtree? (above ++ index :: rest) = argument.subtree? rest := by
    rw [← Program.subtree?_append_of_some found rest, List.append_assoc, List.singleton_append]
  constructor
  · rintro ⟨top, throwSpan, around, outer, errorSpan, named, nameSpan, inside, span, callee,
      arguments, isOuter, isThrow, address_eq⟩
    -- The way from a throw statement to the call goes through first and second children only.
    obtain ⟨rest, rfl, rfl⟩ := exists_before_of_append_eq address_eq (by
      simp only [List.mem_cons, List.mem_append, List.mem_replicate]
      omega)
    exact ⟨rest, throwSpan, around, outer, errorSpan, named, nameSpan, inside, span, callee,
      arguments, isOuter, (inArgument rest).symm.trans isThrow, rfl⟩
  · rintro ⟨top, throwSpan, around, outer, errorSpan, named, nameSpan, inside, span, callee,
      arguments, isOuter, isThrow, rfl⟩
    exact ⟨above ++ index :: top, throwSpan, around, outer, errorSpan, named, nameSpan, inside,
      span, callee, arguments, isOuter, (inArgument top).trans isThrow, by simp⟩

/-! ## Completed runs -/

/-- The calls that make errors and are thrown in an error, in the order of the visit. -/
def thrownCalls (naming : Naming) (program : Program) : List ErrorCall :=
  (errorCalls naming program).filter fun errorCall =>
    decide (ThrownInError program.subtree? errorCall.address)

/-- The calls that make errors and are not thrown in an error, in the order of the visit. -/
def otherCalls (naming : Naming) (program : Program) : List ErrorCall :=
  (errorCalls naming program).filter fun errorCall =>
    !decide (ThrownInError program.subtree? errorCall.address)

theorem thrownCalls_eq (naming : Naming) (program : Program) :
    thrownCalls naming program = wrappedCalls naming program := by
  simp only [thrownCalls, wrappedCalls, wrapped_iff_thrownInError]

theorem otherCalls_eq (naming : Naming) (program : Program) :
    otherCalls naming program = losingCalls naming program := by
  simp only [otherCalls, losingCalls, wrapped_iff_thrownInError]

/-- The completion of a visit adds no warnings of calls, and counts the declarations that the visit
has met. -/
theorem warnings_complete
    {setup : Setup}
    {sources : Sources}
    {program left : Program}
    {progress : Progress}
    {table : Table}
    {issues : List Issue}
    {statistics : Statistics}
    (completes : setup.complete sources program progress =
      (.completed table issues statistics, left)) :
    issues.filter isWrappedWarning = progress.issues.filter isWrappedWarning ∧
      statistics.definitions = progress.sites.size := by
  obtain ⟨naming, _ | replacement⟩ := setup <;>
    rcases spans : progress.sites.spans with _ | ⟨first, _ | ⟨second, others⟩⟩ <;>
    simp only [Setup.complete, Sites.plan, spans, Option.isSome, if_true, if_false,
      Bool.false_eq_true] at completes <;>
    obtain ⟨outcome_eq, _⟩ := Prod.mk.inj completes <;>
    obtain ⟨_, rfl, rfl⟩ := Outcome.completed.inj outcome_eq <;>
    exact ⟨by simp [isWrappedWarning], rfl⟩

/-- What a completed run says of the calls that are thrown in an error and of the others. -/
structure TellsThrown
    (setup : Setup)
    (source : Source)
    (program left : Program)
    (table : Table)
    (issues : List Issue)
    (statistics : Statistics) : Prop where
  /-- Apart from the only declaration of the factory, a replacement does not matter for what is
  left. -/
  left_eq :
    let base := (Setup.run { setup with replacement := none } source program).2
    left = if statistics.definitions = 1 then setup.substitute base else base
  /-- A call keeps its message when it is thrown in an error. -/
  kept : ∀ errorCall ∈ errorCalls setup.naming program,
    let base := (Setup.run { setup with replacement := none } source program).2
    let selection := losesMessageAt setup.naming program
    let trailing := allWithoutMessagesAt (selection.below errorCall.address) 3
      errorCall.found.trailing
    ∃ moved, selection.shift? errorCall.address = some moved ∧
      base.subtree? moved =
        some (.call errorCall.call.span errorCall.call.callee
          (if ThrownInError program.subtree? errorCall.address then
            errorCall.found.code :: errorCall.found.message :: trailing
          else errorCall.found.code :: trailing))
  /-- The calls that are thrown in an error are warned of, each of them once. -/
  warned :
    (issues.filter isWrappedWarning).map some =
      (thrownCalls setup.naming program).map (ErrorCall.warning? · (setup.sources source))
  /-- The other calls are recorded. -/
  recorded :
    ∃ entries, (otherCalls setup.naming program).map ErrorCall.folded? = entries.map some ∧
      table = Table.ofEntries entries
  /-- A call in a further argument of one that is thrown in an error is one of the others unless
  it is itself thrown in an error in that argument. -/
  nested : ∀ outer ∈ thrownCalls setup.naming program,
    ∀ index argument below span callee arguments found,
      outer.found.trailing[index]? = some argument ->
      argument.subtree? below = some (.call span callee arguments) ->
      setup.naming.match? callee arguments = some found ->
      let inner : ErrorCall :=
        { address := outer.address ++ (index + 3) :: below
          call := { span, callee, arguments }
          found }
      (ThrownInError argument.subtree? below -> inner ∈ thrownCalls setup.naming program) ∧
        (¬ ThrownInError argument.subtree? below -> inner ∈ otherCalls setup.naming program)

/-- A call in a further argument of a call that makes an error is found like any other, and is
thrown in an error if it is thrown in one in that argument. -/
theorem nested_of_mem_errorCalls
    {naming : Naming}
    {program : Program}
    {outer : ErrorCall}
    (present : outer ∈ errorCalls naming program)
    {index : Nat}
    {argument : Node}
    (isArgument : outer.found.trailing[index]? = some argument)
    {below : Address}
    (call : Call)
    (isCall : argument.subtree? below = some (.call call.span call.callee call.arguments))
    {found : Match}
    (recognised : naming.match? call.callee call.arguments = some found) :
    { address := outer.address ++ (index + 3) :: below, call, found } ∈ errorCalls naming program ∧
      (ThrownInError program.subtree? (outer.address ++ (index + 3) :: below) ↔
        ThrownInError argument.subtree? below) := by
  obtain ⟨outerCall, outerRecognised⟩ := (mem_errorCalls_iff naming program outer).mp present
  obtain ⟨_, arguments_eq, _⟩ := (naming.match?_eq_some_iff _ _ _).mp outerRecognised
  have atArgument : program.subtree? (outer.address ++ [index + 3]) = some argument := by
    rw [Program.subtree?_append_of_some outerCall, Node.subtree?_cons, subtreeAmong?_eq_some_iff]
    exact ⟨argument, by simpa [Node.children, arguments_eq] using isArgument, rfl⟩
  refine ⟨(mem_errorCalls_iff naming program _).mpr ⟨?_, recognised⟩,
    thrownInError_append_iff atArgument (by omega) below⟩
  rw [← isCall, ← Program.subtree?_append_of_some atArgument, List.append_assoc,
    List.singleton_append]

section
variable {setup : Setup} {source : Source} {program left : Program}
variable {table : Table} {issues : List Issue} {statistics : Statistics}
variable (completes : setup.run source program = (.completed table issues statistics, left))
include completes

/-- There is a warning of each call that is thrown in an error. -/
theorem warnings_of_completed :
    (issues.filter isWrappedWarning).map some =
      (thrownCalls setup.naming program).map (ErrorCall.warning? · (setup.sources source)) := by
  have folded := folded_of_completed completes
  have completed := runOn_of_folded setup folded (setup.sources source)
  have eachWarned : ∀ errorCall ∈ thrownCalls setup.naming program,
      errorCall.warning? (setup.sources source) ≠ none := by
    intro errorCall thrown
    simpa [ErrorCall.warning?] using folded errorCall (List.mem_filter.mp thrown).1
  have onlyWarnings : ∀ issue ∈ (progressOf setup.naming (setup.sources source) program).issues,
      isWrappedWarning issue = true := by
    rw [issues_progressOf folded]
    intro issue warned
    obtain ⟨errorCall, _, isWarning⟩ := List.mem_filterMap.mp warned
    obtain ⟨entry, _, rfl⟩ := Option.map_eq_some_iff.mp isWarning
    rfl
  rw [map_eq_map_some_filterMap eachWarned, thrownCalls_eq, ← issues_progressOf folded,
    (warnings_complete (completed.symm.trans completes)).1, List.filter_eq_self.mpr onlyWarnings]

/-- Without a replacement a completed run leaves the program without the messages of the calls
that are not wrapped. -/
theorem base_of_completed :
    (Setup.run { setup with replacement := none } source program).2 =
      strip setup.naming program := by
  have folded := folded_of_completed completes
  obtain ⟨_, complete_eq⟩ := complete_of_no_replacement setup.naming
    (Setup.sources { setup with replacement := none } source) (strip setup.naming program)
    (progressOf setup.naming (Setup.sources { setup with replacement := none } source) program)
  rw [Setup.run, runOn_of_folded { setup with replacement := none } folded, complete_eq]

/-- The only declaration of the factory is replaced in what is left without a replacement. -/
theorem left_of_completed :
    let base := (Setup.run { setup with replacement := none } source program).2
    left = if statistics.definitions = 1 then setup.substitute base else base := by
  have folded := folded_of_completed completes
  have completed := runOn_of_folded setup folded (setup.sources source)
  have definitions_eq := (warnings_complete (completed.symm.trans completes)).2
  have running : (progressOf setup.naming (setup.sources source) program).isStopped = false :=
    isStopped_foldl_apply_of_harmless (harmless_events folded)
  have left_eq : left = (setup.runOn (setup.sources source) program).2 :=
    (congrArg Prod.snd completes).symm
  intro base
  rw [left_eq, program_runOn_eq, definitions_eq]
  simp [base, Setup.run, program_runOn, running]

theorem tellsThrown_of_completed :
    TellsThrown setup source program left table issues statistics where
  left_eq := left_of_completed completes
  kept := by
    intro errorCall present
    simp only [base_of_completed completes, ← wrapped_iff_thrownInError]
    exact exists_errorCall_strip (folded_of_completed completes) present
  warned := warnings_of_completed completes
  recorded := by
    rw [otherCalls_eq]
    exact ⟨_, map_folded?_losingCalls completes, table_of_completed completes⟩
  nested := by
    intro outer thrown index argument below span callee arguments found isArgument isCall
      recognised inner
    obtain ⟨isInner, thrown_iff⟩ := nested_of_mem_errorCalls (List.mem_filter.mp thrown).1
      isArgument { span, callee, arguments } isCall recognised
    refine ⟨fun isThrown => List.mem_filter.mpr ⟨isInner, ?_⟩,
      fun notThrown => List.mem_filter.mpr ⟨isInner, ?_⟩⟩
    · exact decide_eq_true (thrown_iff.mpr isThrown)
    · rw [decide_eq_false (mt thrown_iff.mp notThrown)]
      rfl

end

/-! ## Parentheses -/

/-- A call that makes an error keeps its message and is warned of when it is thrown in an error,
whatever parentheses there are, and is recorded otherwise; this is true of the calls in its further
arguments as well. In a throw statement whose operand makes a general error of one argument that is
not spread, parentheses around the operand, around its callee and around its argument can be added
and removed. A program that differs in nothing else but positions then has a run that ends alike,
and it leaves the same program with the same parentheses added and removed. The marked program is
the first one with spans that tell the throw statements to be changed from the others. -/
theorem thrown_calls_recognised_in_parentheses (setup : Setup) :
    (∀ source program table issues statistics left,
      setup.run source program = (.completed table issues statistics, left) ->
        TellsThrown setup source program left table issues statistics) ∧
    ∀ parens? program marked other source otherSource,
      Fits parens? marked.subtree? ->
      (∀ replacement ∈ setup.replacement, Skips parens? replacement.declaration.toNode) ->
      program.withoutSpans = marked.withoutSpans ->
      other.withoutSpans = (programReparenthesized parens? marked).withoutSpans ->
      let first := setup.run source program
      let second := setup.run otherSource other
      let left := (setup.run source marked).2
      EndAlike first.1 second.1 ∧
        first.2.withoutSpans = left.withoutSpans ∧
        second.2.withoutSpans = (programReparenthesized parens? left).withoutSpans := by
  refine ⟨fun _ _ _ _ _ _ completes => tellsThrown_of_completed completes, ?_⟩
  intro parens? program marked other source otherSource fits skips same sameToo first second left
  have marked_eq : setup.run source (programReparenthesized parens? marked) =
      ((setup.run source marked).1, programReparenthesized parens? left) :=
    runOn_reparenthesized fits skips (setup.sources source)
  have outlines_eq := outlines_events_eq_of_withoutSpans_eq same setup.naming
  have outlinesToo := outlines_events_eq_of_withoutSpans_eq sameToo setup.naming
  refine ⟨endAlike_of_withoutLocations_eq ?_, withoutSpans_run_eq same setup source source, ?_⟩
  · calc first.1.withoutLocations
        = (setup.run source marked).1.withoutLocations :=
          withoutLocations_run_eq outlines_eq source source
      _ = (setup.run source (programReparenthesized parens? marked)).1.withoutLocations := by
          rw [marked_eq]
      _ = second.1.withoutLocations :=
          (withoutLocations_run_eq outlinesToo otherSource source).symm
  · rw [withoutSpans_run_eq sameToo setup otherSource source, marked_eq]

/-- Parentheses for the throw statements of the sample, but not for those of a replacement. -/
def sampleParens (span : Span) : Option Parens :=
  match span.origin with
  | .program =>
      some { operand := [.nowhere, .nowhere], callee := [.nowhere], argument := [.nowhere] }
  | .replacement => none

/-- A declaration that takes the place of the factory in the sample. -/
def sampleReplacement : Declaration :=
  let span : Span := { origin := .replacement, start := 0, stop := 0 }
  { span
    signature :=
      { name := "minErr", nameSpan := span, header := { isAsync := false, isGenerator := false } }
    parameters := []
    body := .other span .block [] }

/-- A setup with a replacement for the sample. -/
def sampleReplacing : Setup :=
  { naming := sampleNaming, replacement := some { declaration := sampleReplacement, text := [] } }

/-- The sample throws one call in an error, and it still does so with parentheses around the
error, around its name and around the call. -/
theorem thrown_calls_recognised_in_parentheses_sample :
    let other := programReparenthesized sampleParens sampleProgram
    let first := sampleReplacing.run sampleSource sampleProgram
    let second := sampleReplacing.run sampleSource other
    Fits sampleParens sampleProgram.subtree? ∧
      Skips sampleParens sampleReplacement.toNode ∧
      (∃ table issues statistics,
        first.1 = .completed table issues statistics ∧
          TellsThrown sampleReplacing sampleSource sampleProgram first.2 table issues statistics) ∧
      (thrownCalls sampleNaming sampleProgram).map ErrorCall.address = [[1, 0, 1]] ∧
      (thrownCalls sampleNaming other).map ErrorCall.address = [[1, 0, 0, 0, 1, 0]] ∧
      EndAlike first.1 second.1 ∧
      second.2.withoutSpans = (programReparenthesized sampleParens first.2).withoutSpans := by
  intro other first second
  have fits : Fits sampleParens sampleProgram.subtree? := by
    intro address span operand isThrow _
    have present := (Program.mem_occurrences_iff sampleProgram
      { address, node := .throwing span operand }).mpr isThrow
    simp [sampleProgram, sampleString, Program.occurrences, occurrencesFrom, Node.occurrences,
      Occurrence.inChild] at present
    obtain ⟨_, _, rfl⟩ := present
    exact ⟨_, _, _, .inr rfl, rfl, rfl⟩
  have skips : Skips sampleParens sampleReplacement.toNode := by
    intro address span operand isThrow
    have present := (Node.mem_occurrences_iff sampleReplacement.toNode
      { address, node := .throwing span operand }).mpr isThrow
    simp [sampleReplacement, Declaration.toNode, Node.occurrences, occurrencesFrom,
      Occurrence.inChild] at present
  obtain ⟨tells, alike⟩ := thrown_calls_recognised_in_parentheses sampleReplacing
  obtain ⟨endAlike, _, left_eq⟩ := alike sampleParens sampleProgram sampleProgram other
    sampleSource sampleSource fits (by rintro _ ⟨⟩; exact skips) rfl rfl
  obtain ⟨table, issues, statistics, left, completes⟩ : ∃ table issues statistics left,
      sampleReplacing.run sampleSource sampleProgram =
        (.completed table issues statistics, left) :=
    ⟨_, _, _, _, rfl⟩
  have told := tells sampleSource sampleProgram table issues statistics left completes
  refine ⟨fits, skips, ⟨table, issues, statistics, ?_, ?_⟩, by decide +kernel, by decide +kernel,
    endAlike, left_eq⟩
  · exact congrArg Prod.fst completes
  · rw [show first.2 = left from congrArg Prod.snd completes]
    exact told

end Extraction
end ErrorTemplates
