import ErrorTemplates.Proofs.Extraction.Arguments
import ErrorTemplates.Proofs.Extraction.Recording
import ErrorTemplates.Proofs.Extraction.Substitution

/-!
# The counters of a run

What is counted accounts for every call that makes an error: it was recorded or warned of, and
what was recorded is in the table or replaced what was there. This holds after each event of a
visit that has not ended with an error, and of a completed run.
-/

namespace ErrorTemplates
namespace Extraction

open Diagnostic
open Program

/-! ## The size of a table -/

/-- A new code lengthens the list of codes, and a known one does not. -/
theorem length_put (code template : String) (codes : List (String × String)) :
    (put code template codes).length =
      codes.length + if (lookup? code codes).isNone then 1 else 0 := by
  induction codes with
  | nil => rfl
  | cons pair rest inductionHypothesis =>
      obtain ⟨found, old⟩ := pair
      by_cases same : found = code
      · simp [put, lookup?, same]
      · rw [put, if_neg same, List.length_cons, inductionHypothesis, lookup?, if_neg same,
          List.length_cons]
        omega

namespace Table

/-- A table grows by one template when a pair is new. -/
theorem size_insert (table : Table) (entry : Entry) :
    (table.insert entry).size + (if table.outcome entry = .updated then 1 else 0) =
      table.size + 1 := by
  have grows (spaces : List Space) :
      sizeOf (record entry spaces) +
          (if (lookup? entry.code (codesIn entry.space spaces)).isSome then 1 else 0) =
        sizeOf spaces + 1 := by
    induction spaces with
    | nil => rfl
    | cons space rest inductionHypothesis =>
        by_cases same : space.name = entry.space
        · rw [record, if_pos same, codesIn, if_pos same, sizeOf, sizeOf, length_put]
          cases lookup? entry.code space.codes with
          | none => simp only [Option.isNone_none, Option.isSome_none, Bool.false_eq_true, if_true,
              if_false]; omega
          | some => simp
        · rw [record, if_neg same, codesIn, if_neg same, sizeOf, sizeOf]
          omega
  have updated_iff : table.outcome entry = .updated ↔
      (lookup? entry.code (codesIn entry.space table.spaces)).isSome = true := by
    rw [outcome, get?]
    cases lookup? entry.code (codesIn entry.space table.spaces) <;> simp
  have grown := grows table.spaces
  simp only [← updated_iff] at grown
  exact grown

end Table

/-! ## What the counters say -/

/-- The issue is the warning of a call that is wrapped and thrown. -/
def isWrappedWarning : Issue -> Bool
  | .wrapped .. => true
  | _ => false

/-- Every call that was counted is accounted for. -/
structure Balanced (progress : Progress) : Prop where
  /-- Each call was recorded or warned of. -/
  calls_eq : progress.statistics.calls =
    progress.statistics.stripped + progress.statistics.wrapped
  /-- Each recorded call is in the table, or its pair was there before. -/
  stripped_eq : progress.statistics.stripped =
    progress.table.size + progress.statistics.duplicates
  /-- There is a warning of each call that is wrapped and thrown. -/
  wrapped_eq : progress.issues.countP isWrappedWarning = progress.statistics.wrapped
  /-- There are no other issues. -/
  issues_eq : progress.issues.length = progress.statistics.wrapped

theorem balanced_start : Balanced .start where
  calls_eq := rfl
  stripped_eq := rfl
  wrapped_eq := rfl
  issues_eq := rfl

/-- An event keeps the balance unless it ends the extraction. -/
theorem Balanced.apply
    {progress : Progress}
    {event : Event}
    (balanced : Balanced progress)
    (running : progress.isStopped = false)
    (harmless : event.isFatal = false)
    (sources : Sources) : Balanced (Event.apply sources progress event) := by
  obtain ⟨_, _, _, applied⟩ | ⟨_, _, _, _, applied⟩ | ⟨_, entry, _, _, applied⟩ :=
    Event.apply_of_harmless running sources harmless
  · rw [applied]
    exact ⟨balanced.calls_eq, balanced.stripped_eq, balanced.wrapped_eq, balanced.issues_eq⟩
  · rw [applied]
    refine ⟨?_, balanced.stripped_eq, ?_, ?_⟩
    · have calls_eq := balanced.calls_eq
      simp only [Progress.warnWrapped, Progress.countMatch]
      omega
    · simp [Progress.warnWrapped, Progress.countMatch, isWrappedWarning, balanced.wrapped_eq]
    · simp [Progress.warnWrapped, Progress.countMatch, balanced.issues_eq]
  · rw [applied]
    refine ⟨?_, ?_, balanced.wrapped_eq, balanced.issues_eq⟩
    · have calls_eq := balanced.calls_eq
      simp only [Progress.recordEntry, Progress.countMatch]
      omega
    · have stripped_eq := balanced.stripped_eq
      have grown := progress.table.size_insert entry
      change progress.statistics.stripped + 1 = (progress.table.insert entry).size +
        (progress.statistics.duplicates +
          if progress.table.outcome entry = .updated then 1 else 0)
      omega

/-- Events keep the balance as long as the extraction has not ended. -/
theorem Balanced.foldl
    {events : List Event}
    {progress : Progress}
    {sources : Sources}
    (balanced : Balanced progress)
    (running : progress.isStopped = false)
    (harmless : ∀ event ∈ events, event.isFatal = false) :
    Balanced (events.foldl (Event.apply sources) progress) := by
  induction events generalizing progress with
  | nil => exact balanced
  | cons event rest inductionHypothesis =>
      obtain ⟨eventHarmless, restHarmless⟩ := List.forall_mem_cons.mp harmless
      have stillRunning : (Event.apply sources progress event).isStopped = false := by
        rw [Event.isStopped_apply, running, eventHarmless, Bool.or_false]
      exact inductionHypothesis (balanced.apply running eventHarmless sources) stillRunning
        restHarmless

/-! ## Calls and their arguments -/

/-- A call makes an error. -/
def Naming.makesError (naming : Naming) (call : Call) : Bool :=
  (naming.match? call.callee call.arguments).isSome

/-- Of the calls of a program as many make errors as there are calls that make errors. -/
theorem length_errorCalls (naming : Naming) (program : Program) :
    (errorCalls naming program).length = (calls program).countP naming.makesError := by
  rw [errorCalls, calls, ← map_node_occurrences, List.filterMap_map]
  induction program.occurrences with
  | nil => rfl
  | cons occurrence rest inductionHypothesis =>
      obtain ⟨address, node⟩ := occurrence
      rw [List.filterMap_cons, List.filterMap_cons]
      cases node with
      | call span callee arguments =>
          cases recognised : naming.match? callee arguments <;>
            simp [errorCallAt?, recognised, Naming.makesError, inductionHypothesis]
      | _ => exact inductionHypothesis

section
variable {naming : Naming} {program : Program} {recorded : List ErrorCall}
variable (among : recorded.Sublist (errorCalls naming program))
include among

/-- Each of some calls that make errors is at an address of its own. -/
theorem countP_addressesOf :
    program.occurrences.countP (fun occurrence => addressesOf recorded occurrence.address) =
      recorded.length := by
  have callsDistinct : (recorded.map ErrorCall.address).Nodup :=
    (nodup_address_errorCalls naming program).sublist (among.map ErrorCall.address)
  have occurrencesDistinct : (program.occurrences.map Occurrence.address).Nodup := by
    refine List.pairwise_map.mpr (program.pairwise_occurrences.imp ?_)
    intro first second before same
    exact List.lt_irrefl second.address (same ▸ before)
  let selected := program.occurrences.filter fun occurrence =>
    addressesOf recorded occurrence.address
  have sameAddresses :
      (selected.map Occurrence.address).Perm (recorded.map ErrorCall.address) := by
    refine (List.perm_ext_iff_of_nodup
      (occurrencesDistinct.sublist (List.filter_sublist.map _)) callsDistinct).mpr ?_
    intro address
    simp only [List.mem_map, List.mem_filter, addressesOf, List.contains_iff_mem]
    constructor
    · rintro ⟨occurrence, ⟨_, isRecorded⟩, rfl⟩
      exact isRecorded
    · rintro ⟨errorCall, isRecorded, rfl⟩
      have present := ((mem_errorCalls_iff naming program errorCall).mp
        (among.subset isRecorded)).1
      exact ⟨{ address := errorCall.address, node := _ },
        ⟨(mem_occurrences_iff program _).mpr present, errorCall, isRecorded, rfl⟩, rfl⟩
  rw [List.countP_eq_length_filter]
  simpa using sameAddresses.length_eq

/-- Each of some calls with constant messages takes one argument away. -/
theorem argumentCount_withoutMessagesAt_addressesOf
    (folded : ∀ errorCall ∈ recorded, errorCall.folded? ≠ none) :
    argumentCount (programWithoutMessagesAt (addressesOf recorded) program) + recorded.length =
      argumentCount program := by
  rw [← countP_addressesOf among]
  refine argumentCount_programWithoutMessagesAt fun index item isItem => ?_
  intro address found isSelected present
  obtain ⟨errorCall, isRecorded, address_eq⟩ :=
    List.mem_map.mp (List.contains_iff_mem.mp isSelected)
  obtain ⟨isCall, recognised⟩ :=
    (mem_errorCalls_iff naming program errorCall).mp (among.subset isRecorded)
  obtain ⟨_, arguments_eq, _⟩ := (naming.match?_eq_some_iff _ _ _).mp recognised
  obtain ⟨entry, isEntry⟩ := Option.ne_none_iff_exists'.mp (folded errorCall isRecorded)
  obtain ⟨_, _, constant⟩ := (errorCall.folded?_eq_some_iff entry).mp isEntry
  have inProgram : program.subtree? (index :: address) = some found :=
    (subtreeAmong?_eq_some_iff _ _ _ _).mpr ⟨item, isItem, present⟩
  rw [address_eq, inProgram, arguments_eq] at isCall
  exact ⟨_, _, _, _, _, entry.template, Option.some.inj isCall, constant⟩

end

/-! ## During a visit -/

/-- The calls and the declarations that a visit has met are accounted for. -/
structure AccountedSoFar
    (naming : Naming)
    (program : Program)
    (met : List Event)
    (progress : Progress) : Prop where
  /-- Calls that make errors have been counted. -/
  counted : progress.statistics.calls = (met.filterMap Event.errorCall?).length
  /-- What was counted was recorded or warned of. -/
  balanced : Balanced progress
  /-- Declarations of the factory have been recorded. -/
  sites_eq : progress.sites.size = (met.filterMap Event.nameSpan?).length
  /-- No declaration has been replaced. -/
  notSubstituted : progress.statistics.substituted = false
  /-- Each recorded call has lost an argument. -/
  arguments_eq :
    argumentCount (programWithoutMessagesAt (removed false met) program) +
        progress.statistics.stripped =
      argumentCount program

/-- As long as a visit has not ended with an error, what it has met is accounted for. -/
theorem accountedSoFar_of_running
    {naming : Naming}
    {sources : Sources}
    {program : Program}
    {met rest : List Event}
    (isMet : met ++ rest = events naming program)
    (running : (met.foldl (Event.apply sources) .start).isStopped = false) :
    AccountedSoFar naming program met (met.foldl (Event.apply sources) .start) := by
  have harmless : ∀ event ∈ met, event.isFatal = false := by
    rw [isStopped_foldl_apply, Bool.or_eq_false_iff] at running
    simpa using running.2
  have agrees : ∀ event ∈ met, event.Agrees fun address => decide (Wrapped program address) :=
    fun event present => agrees_of_mem_events (isMet ▸ List.mem_append_left rest present)
  have among : (met.filterMap Event.losingCall?).Sublist (errorCalls naming program) := by
    rw [filterMap_losingCall? agrees, ← filterMap_errorCall?_events, ← isMet,
      List.filterMap_append]
    exact List.filter_sublist.trans (List.sublist_append_left _ _)
  have folded : ∀ errorCall ∈ met.filterMap Event.losingCall?, errorCall.folded? ≠ none := by
    intro errorCall losing notFolded
    obtain ⟨event, present, loses⟩ := List.mem_filterMap.mp losing
    have eventHarmless := harmless event present
    rcases event with ⟨_, _ | _⟩ | _ <;>
      simp_all [Event.losingCall?, Event.isFatal]
  obtain ⟨calls_eq, stripped_eq, _⟩ := @counts_foldl_apply sources met harmless
  refine ⟨calls_eq, balanced_start.foldl rfl harmless, ?_, substituted_foldl_apply harmless, ?_⟩
  · rw [Sites.size, sites_foldl_apply harmless]
  · rw [stripped_eq, removed_of_harmless harmless,
      argumentCount_withoutMessagesAt_addressesOf among folded]

/-! ## After a completed run -/

/-- The calls and the declarations of a program are accounted for by the results of a run. -/
structure Accounted
    (naming : Naming)
    (program left : Program)
    (table : Table)
    (issues : List Issue)
    (statistics : Statistics) : Prop where
  /-- Each call that makes an error was counted. -/
  counted : statistics.calls = (calls program).countP naming.makesError
  /-- Each of them was recorded or warned of. -/
  calls_eq : statistics.calls = statistics.stripped + statistics.wrapped
  /-- Each recorded call is in the table, or its pair was there before. -/
  stripped_eq : statistics.stripped = table.size + statistics.duplicates
  /-- There is a warning of each call that is wrapped and thrown. -/
  wrapped_eq : issues.countP isWrappedWarning = statistics.wrapped
  /-- There is one more warning if there are several declarations. -/
  issues_eq :
    issues.length = statistics.wrapped + if 2 ≤ statistics.definitions then 1 else 0
  /-- Each declaration of the factory was counted. -/
  definitions_eq : statistics.definitions = (declarations naming.factory program).length
  /-- Each recorded call has lost an argument, and no other call has. -/
  arguments_eq : statistics.substituted = false ->
    argumentCount left + statistics.stripped = argumentCount program
  /-- Only a single declaration is replaced. -/
  single : statistics.substituted = true -> statistics.definitions = 1

section
variable {naming : Naming} {program : Program}
variable (folded : ∀ errorCall ∈ errorCalls naming program, errorCall.folded? ≠ none)
include folded

/-- Completing a visit accounts for everything if it adds a warning of several declarations
and replaces nothing but a single one. -/
theorem accounted_of_visit
    {sources : Sources}
    {left : Program}
    {issues : List Issue}
    {substituted : Bool}
    (sameWarnings : issues.countP isWrappedWarning =
      (progressOf naming sources program).issues.countP isWrappedWarning)
    (moreIssues : issues.length = (progressOf naming sources program).issues.length +
      if 2 ≤ (progressOf naming sources program).sites.size then 1 else 0)
    (unlessReplaced : substituted = false -> left = strip naming program)
    (single : substituted = true -> (progressOf naming sources program).sites.size = 1) :
    Accounted naming program left (progressOf naming sources program).table issues
      { Setup.counted (progressOf naming sources program) with substituted } := by
  have met : AccountedSoFar naming program (events naming program)
      (progressOf naming sources program) :=
    accountedSoFar_of_running (List.append_nil _)
      (isStopped_foldl_apply_of_harmless (harmless_events folded))
  refine ⟨?_, met.balanced.calls_eq, met.balanced.stripped_eq, ?_, ?_, ?_, ?_, single⟩
  · rw [← length_errorCalls, ← filterMap_errorCall?_events]
    exact met.counted
  · rw [sameWarnings]
    exact met.balanced.wrapped_eq
  · rw [moreIssues, met.balanced.issues_eq]
    rfl
  · rw [length_declarations folded sources]
    rfl
  · intro notReplaced
    have among : (losingCalls naming program).Sublist (errorCalls naming program) :=
      List.filter_sublist
    have lost := argumentCount_withoutMessagesAt_addressesOf among fun errorCall losing =>
      folded errorCall (among.subset losing)
    rw [addressesOf_losingCalls] at lost
    rw [unlessReplaced notReplaced, ← lost]
    exact congrArg _ (counts_progressOf folded sources).2.1

/-- The completion of a visit accounts for everything that was met. -/
theorem accounted_of_complete
    {sources : Sources}
    {replacement : Option Replacement}
    {left : Program}
    {table : Table}
    {issues : List Issue}
    {statistics : Statistics}
    (completes : Setup.complete { naming, replacement } sources (strip naming program)
      (progressOf naming sources program) = (.completed table issues statistics, left)) :
    Accounted naming program left table issues statistics := by
  rcases spans : (progressOf naming sources program).sites.spans with
    _ | ⟨only, _ | ⟨second, others⟩⟩
  · rw [complete_of_no_declaration naming sources _ spans,
      ← counted_progressOf folded sources] at completes
    obtain ⟨outcome_eq, rfl⟩ := Prod.mk.inj completes
    obtain ⟨rfl, rfl, rfl⟩ := Outcome.completed.inj outcome_eq
    exact accounted_of_visit folded rfl (by simp [Sites.size, spans]) (fun _ => rfl) (by simp)
  · have isOne : (progressOf naming sources program).sites.size = 1 := by
      rw [Sites.size, spans, List.length_singleton]
    cases replacement with
    | none =>
        rw [complete_of_one_declaration_of_none naming sources _ spans,
          ← counted_progressOf folded sources] at completes
        obtain ⟨outcome_eq, rfl⟩ := Prod.mk.inj completes
        obtain ⟨rfl, rfl, rfl⟩ := Outcome.completed.inj outcome_eq
        exact accounted_of_visit folded rfl (by simp [isOne]) (fun _ => rfl) (by simp)
    | some replacement =>
        obtain ⟨only, single⟩ : ∃ only, declarations naming.factory program = [only] := by
          rw [← List.length_eq_one_iff, length_declarations folded sources, isOne]
        obtain ⟨moved, movedOnly, _⟩ := exists_declarations_strip_eq_singleton folded single
        rw [complete_of_one_declaration naming sources _ spans movedOnly] at completes
        obtain ⟨outcome_eq, rfl⟩ := Prod.mk.inj completes
        obtain ⟨rfl, rfl, rfl⟩ := Outcome.completed.inj outcome_eq
        exact accounted_of_visit folded rfl (by simp [isOne]) (by simp) fun _ => isOne
  · rw [complete_of_several_declarations naming sources _ spans,
      ← counted_progressOf folded sources] at completes
    obtain ⟨outcome_eq, rfl⟩ := Prod.mk.inj completes
    obtain ⟨rfl, rfl, rfl⟩ := Outcome.completed.inj outcome_eq
    refine accounted_of_visit folded ?_ ?_ (fun _ => rfl) (by simp)
    · simp [isWrappedWarning]
    · simp [Sites.size, spans]

end

/-- The counters of a completed run account for every call and every declaration of the
program, and those of the visit account for what has been met by then after each event, as
long as the visit has not ended with an error. -/
theorem counters_account_for_calls
    (setup : Setup)
    (source : Source)
    (program : Program) :
    (∀ table issues statistics left,
      setup.run source program = (.completed table issues statistics, left) ->
        Accounted setup.naming program left table issues statistics) ∧
    let sources := setup.sources source
    let all := events setup.naming program
    setup.visitProgram sources program =
        (programWithoutMessagesAt (removed false all) program,
          all.foldl (Event.apply sources) .start) ∧
      ∀ met rest, met ++ rest = all ->
        (met.foldl (Event.apply sources) .start).isStopped = false ->
          AccountedSoFar setup.naming program met (met.foldl (Event.apply sources) .start) := by
  refine ⟨?_, ?_, fun met rest isMet running => accountedSoFar_of_running isMet running⟩
  · intro table issues statistics left completes
    have folded := folded_of_completed completes
    have completed := runOn_of_folded setup folded (setup.sources source)
    exact accounted_of_complete folded (completed.symm.trans completes)
  · rw [visitProgram_eq, traceAll_items]

/-- In the sample two calls are recorded and one is warned of. -/
theorem counters_account_for_calls_sample :
    ∃ table issues statistics left,
      sampleSetup.run sampleSource sampleProgram =
          (.completed table issues statistics, left) ∧
        Accounted sampleNaming sampleProgram left table issues statistics ∧
        statistics.stripped = 2 ∧ statistics.wrapped = 1 ∧
        argumentCount left + 2 = argumentCount sampleProgram ∧
        AccountedSoFar sampleNaming sampleProgram ((events sampleNaming sampleProgram).take 2)
          (((events sampleNaming sampleProgram).take 2).foldl
            (Event.apply (sampleSetup.sources sampleSource)) .start) := by
  obtain ⟨atEnd, _, before⟩ :=
    counters_account_for_calls sampleSetup sampleSource sampleProgram
  refine ⟨_, _, _, _, rfl, atEnd _ _ _ _ rfl, by decide, by decide, ?_, ?_⟩
  · exact (atEnd _ _ _ _ rfl).arguments_eq rfl
  · exact before _ _ (List.take_append_drop 2 _) (by decide)

end Extraction
end ErrorTemplates
