import ErrorTemplates.Proofs.Extraction.Outcome
import ErrorTemplates.Proofs.Extraction.Shift

/-!
# What a completed run leaves

A completed run leaves the program without the messages of all calls that make errors and
are not wrapped. Which calls these are is read off the program before anything is removed
from it. Each of the calls is found again afterwards, with its callee and its code.
-/

namespace ErrorTemplates
namespace Extraction

open Diagnostic
open Program

section
variable {naming : Naming} {program : Program}

/-- The message of a call that loses it is constant. -/
theorem exists_message_of_losesMessageAt
    (folded : ∀ errorCall ∈ errorCalls naming program, errorCall.folded? ≠ none)
    {address : Address}
    (loses : losesMessageAt naming program address = true) :
    ∃ node message text, program.subtree? address = some node ∧
      node.children[2]? = some message ∧ constant? message = some text := by
  rw [← addressesOf_losingCalls, addressesOf, List.contains_iff_mem, List.mem_map] at loses
  obtain ⟨errorCall, losing, rfl⟩ := loses
  have present : errorCall ∈ errorCalls naming program := (List.mem_filter.mp losing).1
  obtain ⟨isCall, recognised⟩ := (mem_errorCalls_iff naming program errorCall).mp present
  obtain ⟨_, arguments_eq, _⟩ := (naming.match?_eq_some_iff _ _ _).mp recognised
  obtain ⟨entry, isEntry⟩ := Option.ne_none_iff_exists'.mp (folded errorCall present)
  obtain ⟨_, _, constant⟩ := (errorCall.folded?_eq_some_iff entry).mp isEntry
  refine ⟨_, errorCall.found.message, entry.template, isCall, ?_, constant⟩
  rw [Node.children, arguments_eq]
  rfl

/-- What is not constant is in no message that is removed. -/
theorem losesMessageAt_eq_false
    (folded : ∀ errorCall ∈ errorCalls naming program, errorCall.folded? ≠ none)
    {above rest : Address}
    {node : Node}
    (present : program.subtree? (above ++ 2 :: rest) = some node)
    (notConstant : constant? node = none) : losesMessageAt naming program above = false := by
  rw [Bool.eq_false_iff]
  intro loses
  obtain ⟨outer, message, text, isOuter, isMessage, constant⟩ :=
    exists_message_of_losesMessageAt folded loses
  rw [Program.subtree?_append_of_some isOuter, Node.subtree?_cons, subtreeAmong?_eq_some_iff]
    at present
  obtain ⟨child, isChild, inMessage⟩ := present
  obtain rfl : message = child := Option.some.inj (isMessage.symm.trans isChild)
  obtain ⟨part, partConstant⟩ := exists_constant?_of_subtree? constant inMessage
  simp [notConstant] at partConstant

/-- What is not constant is still there, without the messages that were removed in it. -/
theorem exists_subtree?_strip
    (folded : ∀ errorCall ∈ errorCalls naming program, errorCall.folded? ≠ none)
    {address : Address}
    {node : Node}
    (present : program.subtree? address = some node)
    (notConstant : constant? node = none) :
    let selection := losesMessageAt naming program
    ∃ moved, selection.shift? address = some moved ∧
      (strip naming program).subtree? moved =
        some (withoutMessagesAt (selection.below address) node) := by
  intro selection
  obtain ⟨moved, shifted⟩ : ∃ moved, selection.shift? address = some moved := by
    refine Selection.exists_shift? fun above rest address_eq => ?_
    rw [address_eq] at present
    exact losesMessageAt_eq_false folded present notConstant
  have onlyCalls : ∀ address found, selection address = true ->
      program.subtree? address = some found ->
      ∃ span callee arguments, found = .call span callee arguments := by
    intro address found selected isFound
    simp only [selection, losesMessageAt, isFound] at selected
    cases found with
    | call span callee arguments => exact ⟨span, callee, arguments, rfl⟩
    | _ => simp at selected
  exact ⟨moved, shifted, subtree?_programWithoutMessagesAt onlyCalls rfl present shifted⟩

/-- A call that makes an error keeps its callee and its code, also its message if it is
wrapped, and is found where its address has moved. -/
theorem exists_errorCall_strip
    (folded : ∀ errorCall ∈ errorCalls naming program, errorCall.folded? ≠ none)
    {errorCall : ErrorCall}
    (present : errorCall ∈ errorCalls naming program) :
    let selection := losesMessageAt naming program
    let trailing := allWithoutMessagesAt (selection.below errorCall.address) 3
      errorCall.found.trailing
    ∃ moved, selection.shift? errorCall.address = some moved ∧
      (strip naming program).subtree? moved =
        some (.call errorCall.call.span errorCall.call.callee
          (if Wrapped program errorCall.address then
            errorCall.found.code :: errorCall.found.message :: trailing
          else errorCall.found.code :: trailing)) := by
  obtain ⟨isCall, recognised⟩ := (mem_errorCalls_iff naming program errorCall).mp present
  obtain ⟨makes, arguments_eq, _⟩ := (naming.match?_eq_some_iff _ _ _).mp recognised
  obtain ⟨entry, isEntry⟩ := Option.ne_none_iff_exists'.mp (folded errorCall present)
  obtain ⟨_, codeConstant, messageConstant⟩ := (errorCall.folded?_eq_some_iff entry).mp isEntry
  intro selection trailing
  obtain ⟨moved, shifted, found⟩ := exists_subtree?_strip folded isCall rfl
  refine ⟨moved, shifted, ?_⟩
  have atCall : (losesMessageAt naming program).below errorCall.address [] =
      !decide (Wrapped program errorCall.address) := by
    rw [Selection.below_apply, List.append_nil]
    simp [losesMessageAt, isCall, recognised]
  rw [found]
  simp only [withoutMessagesAt, arguments_eq, allWithoutMessagesAt, atCall,
    withoutMessagesAt_of_maker _ makes, withoutMessagesAt_of_constant _ codeConstant,
    withoutMessagesAt_of_constant _ messageConstant]
  by_cases wrapped : Wrapped program errorCall.address <;>
    simp [wrapped, trailing, selection]

end

/-- A completed run without a replacement leaves exactly the program without the messages
of all calls that make errors and are not wrapped. Each call that makes an error is left
with its callee and its code, and each was counted once. -/
theorem run_eq_strip
    {naming : Naming}
    {source : Source}
    {program left : Program}
    {table : Table}
    {issues : List Issue}
    {statistics : Statistics}
    (completes : Setup.run { naming, replacement := none } source program =
      (.completed table issues statistics, left)) :
    left = strip naming program ∧
      (∀ errorCall ∈ errorCalls naming program,
        let selection := losesMessageAt naming program
        let trailing := allWithoutMessagesAt (selection.below errorCall.address) 3
          errorCall.found.trailing
        ∃ moved, selection.shift? errorCall.address = some moved ∧
          left.subtree? moved =
            some (.call errorCall.call.span errorCall.call.callee
              (if Wrapped program errorCall.address then
                errorCall.found.code :: errorCall.found.message :: trailing
              else errorCall.found.code :: trailing))) ∧
      ((errorCalls naming program).map ErrorCall.address).Nodup ∧
      statistics.calls = (errorCalls naming program).length ∧
      statistics.stripped = (losingCalls naming program).length ∧
      statistics.wrapped = (wrappedCalls naming program).length := by
  let setup : Setup := { naming, replacement := none }
  have folded : ∀ errorCall ∈ errorCalls setup.naming program, errorCall.folded? ≠ none :=
    folded_of_completed completes
  have completed := runOn_of_folded setup folded (setup.sources source)
  obtain ⟨_, complete_eq⟩ := complete_of_no_replacement naming (setup.sources source)
    (strip naming program) (progressOf naming (setup.sources source) program)
  obtain ⟨outcome_eq, rfl⟩ := Prod.mk.inj (completes.symm.trans (completed.trans complete_eq))
  obtain ⟨_, _, rfl⟩ := Outcome.completed.inj outcome_eq
  refine ⟨rfl, fun errorCall present => exists_errorCall_strip folded present,
    nodup_address_errorCalls naming program, ?_⟩
  exact counts_progressOf folded (setup.sources source)

/-- The sample is completed, and two of its three calls lose their messages. -/
theorem run_eq_strip_sample :
    ∃ table issues statistics left,
      sampleSetup.run sampleSource sampleProgram =
          (.completed table issues statistics, left) ∧
        left = strip sampleNaming sampleProgram ∧
        statistics.stripped = (losingCalls sampleNaming sampleProgram).length ∧
        (losingCalls sampleNaming sampleProgram).length = 2 := by
  obtain ⟨table, issues, statistics, left, completes⟩ :
      ∃ table issues statistics left, sampleSetup.run sampleSource sampleProgram =
        (.completed table issues statistics, left) :=
    ⟨_, _, _, _, rfl⟩
  obtain ⟨left_eq, _, _, _, stripped_eq, _⟩ := run_eq_strip completes
  exact ⟨table, issues, statistics, left, completes, left_eq, stripped_eq, by decide⟩

end Extraction
end ErrorTemplates
