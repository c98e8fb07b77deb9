import ErrorTemplates.Proofs.Extraction.Account
import Mathlib.Data.List.TakeWhile

/-!
# How a run ends

A run is completed when the code and the message of every call that makes an error are
constant. Otherwise the first call of which this is not true ends it, and what comes after
that call makes no difference.
-/

namespace ErrorTemplates
namespace Extraction

open Diagnostic
open Program

/-- The addresses of a program at which there is a call that loses its message: one that
makes an error and is not wrapped. -/
def losesMessageAt (naming : Naming) (program : Program) : Selection := fun address =>
  match program.subtree? address with
  | some (.call _ callee arguments) =>
      (naming.match? callee arguments).isSome && !decide (Wrapped program address)
  | _ => false

/-- A program in which every call that makes an error and is not wrapped has lost its
message, and nothing else has changed. -/
def strip (naming : Naming) (program : Program) : Program :=
  programWithoutMessagesAt (losesMessageAt naming program) program

/-- The addresses of some calls. -/
def addressesOf (calls : List ErrorCall) : Selection := fun address =>
  (calls.map ErrorCall.address).contains address

theorem addressesOf_losingCalls (naming : Naming) (program : Program) :
    addressesOf (losingCalls naming program) = losesMessageAt naming program := by
  funext address
  rw [Bool.eq_iff_iff, addressesOf, List.contains_iff_mem, List.mem_map]
  simp only [losingCalls, List.mem_filter, Bool.not_eq_true', decide_eq_false_iff_not]
  constructor
  · rintro ⟨errorCall, ⟨present, notWrapped⟩, rfl⟩
    obtain ⟨isCall, recognised⟩ := (mem_errorCalls_iff naming program errorCall).mp present
    simp [losesMessageAt, isCall, recognised, notWrapped]
  · intro loses
    unfold losesMessageAt at loses
    split at loses
    · next span callee arguments isCall =>
        obtain ⟨isMaker, notWrapped⟩ : (naming.match? callee arguments).isSome = true ∧
            ¬ Wrapped program address := by
          simpa using loses
        obtain ⟨found, recognised⟩ := Option.isSome_iff_exists.mp isMaker
        let errorCall : ErrorCall := { address, call := { span, callee, arguments }, found }
        have present : errorCall ∈ errorCalls naming program :=
          (mem_errorCalls_iff naming program errorCall).mpr ⟨isCall, recognised⟩
        exact ⟨errorCall, ⟨present, notWrapped⟩, rfl⟩
    · simp at loses

/-! ## Events and the calls in them -/

/-- Events are harmless when the code and the message of each of their calls are
constant. -/
theorem harmless_of_folded
    {events : List Event}
    (folded : ∀ errorCall ∈ events.filterMap Event.errorCall?, errorCall.folded? ≠ none) :
    ∀ event ∈ events, event.isFatal = false := by
  intro event present
  cases event with
  | declares => rfl
  | makes errorCall isThrown =>
      have isSome := folded errorCall (List.mem_filterMap.mpr ⟨_, present, rfl⟩)
      rw [Event.isFatal, Option.isNone_eq_false_iff, Option.isSome_iff_ne_none]
      exact isSome

/-- Harmless events remove the messages of their calls that are not thrown. -/
theorem removed_of_harmless
    {events : List Event}
    (harmless : ∀ event ∈ events, event.isFatal = false) :
    removed false events = addressesOf (events.filterMap Event.losingCall?) := by
  have all : (events.takeWhile fun event => !event.isFatal) = events :=
    List.takeWhile_eq_self_iff.mpr fun event present => by rw [harmless event present]; rfl
  funext address
  rw [removed, removals, if_neg Bool.false_ne_true, all, addressesOf, List.map_filterMap]
  rfl

/-- What comes after a fatal event removes nothing. -/
theorem removed_of_fatal
    {before : List Event}
    {fatal : Event}
    (harmless : ∀ event ∈ before, event.isFatal = false)
    (isFatal : fatal.isFatal = true)
    (after : List Event) :
    removed false (before ++ fatal :: after) =
      addressesOf (before.filterMap Event.losingCall?) := by
  rw [← removed_of_harmless harmless]
  funext address
  have notStopped : before.any Event.isFatal = false := by
    simpa using harmless
  have nothingMore : removals false (fatal :: after) = [] := by
    rw [removals_cons, isFatal, Bool.or_true, if_pos rfl]
  rw [removed_append, notStopped, Bool.or_false, removed, removed, nothingMore]
  simp

/-- Events are divided where their calls are. -/
theorem exists_events_of_errorCall?
    {events : List Event}
    {before after : List ErrorCall}
    {middle : ErrorCall}
    (calls_eq : events.filterMap Event.errorCall? = before ++ middle :: after) :
    ∃ beginning isThrown rest, events = beginning ++ .makes middle isThrown :: rest ∧
      beginning.filterMap Event.errorCall? = before := by
  obtain ⟨first, second, rfl, first_eq, second_eq⟩ := List.filterMap_eq_append_iff.mp calls_eq
  obtain ⟨gap, event, rest, rfl, gapSilent, isMiddle, _⟩ := List.filterMap_eq_cons_iff.mp second_eq
  cases event with
  | declares => simp [Event.errorCall?] at isMiddle
  | makes errorCall isThrown =>
      obtain rfl := Option.some.inj isMiddle
      refine ⟨first ++ gap, isThrown, rest, (List.append_assoc _ _ _).symm, ?_⟩
      rw [List.filterMap_append, first_eq, List.filterMap_eq_nil_iff.mpr gapSilent,
        List.append_nil]

/-! ## The two ends -/

/-- The progress of a visit of a program. -/
def progressOf (naming : Naming) (sources : Sources) (program : Program) : Progress :=
  (events naming program).foldl (Event.apply sources) .start

section
variable {naming : Naming} {program : Program}
variable (folded : ∀ errorCall ∈ errorCalls naming program, errorCall.folded? ≠ none)
include folded

theorem harmless_events : ∀ event ∈ events naming program, event.isFatal = false := by
  refine harmless_of_folded ?_
  rw [filterMap_errorCall?_events]
  exact folded

theorem table_progressOf (sources : Sources) :
    (progressOf naming sources program).table =
      ((losingCalls naming program).filterMap ErrorCall.folded?).foldl Table.insert .empty := by
  rw [progressOf, table_foldl_apply (harmless_events folded),
    filterMap_losingCall? fun _ => agrees_of_mem_events, filterMap_errorCall?_events, losingCalls]

theorem issues_progressOf (sources : Sources) :
    (progressOf naming sources program).issues =
      (wrappedCalls naming program).filterMap (ErrorCall.warning? · sources) := by
  rw [progressOf, issues_foldl_apply (harmless_events folded),
    filterMap_thrownCall? fun _ => agrees_of_mem_events, filterMap_errorCall?_events, wrappedCalls]

theorem counts_progressOf (sources : Sources) :
    let statistics := (progressOf naming sources program).statistics
    statistics.calls = (errorCalls naming program).length ∧
      statistics.stripped = (losingCalls naming program).length ∧
      statistics.wrapped = (wrappedCalls naming program).length := by
  intro statistics
  rw [wrappedCalls, losingCalls, ← filterMap_errorCall?_events,
    ← filterMap_losingCall? fun _ => agrees_of_mem_events,
    ← filterMap_thrownCall? fun _ => agrees_of_mem_events]
  exact counts_foldl_apply (harmless_events folded)

end

section
variable (setup : Setup) {program : Program}

/-- A run follows from the events of the program. -/
theorem runOn_eq (sources : Sources) (program : Program) :
    setup.runOn sources program =
      let progress := progressOf setup.naming sources program
      let program := programWithoutMessagesAt (removed false (events setup.naming program)) program
      match progress.failure with
      | some error => (.aborted error progress.issues, program)
      | none => setup.complete sources program progress := by
  rw [Setup.runOn, visitProgram_eq, traceAll_items]
  rfl

/-- A run is completed when the code and the message of every call are constant. -/
theorem runOn_of_folded
    (folded : ∀ errorCall ∈ errorCalls setup.naming program, errorCall.folded? ≠ none)
    (sources : Sources) :
    setup.runOn sources program =
      setup.complete sources (strip setup.naming program)
        (progressOf setup.naming sources program) := by
  have harmless := harmless_events folded
  have removes : removed false (events setup.naming program) =
      losesMessageAt setup.naming program := by
    rw [removed_of_harmless harmless, filterMap_losingCall? fun _ => agrees_of_mem_events,
      filterMap_errorCall?_events, ← addressesOf_losingCalls, losingCalls]
  have running : (progressOf setup.naming sources program).failure = none :=
    Option.isNone_iff_eq_none.mp (Option.isSome_eq_false_iff.mp
      (isStopped_foldl_apply_of_harmless harmless))
  simp only [runOn_eq, running, removes]
  rfl

/-- A run is ended by the first call of which the code or the message is not constant. -/
theorem runOn_of_not_folded
    {before after : List ErrorCall}
    {offender : ErrorCall}
    (calls_eq : errorCalls setup.naming program = before ++ offender :: after)
    (folded : ∀ errorCall ∈ before, errorCall.folded? ≠ none)
    (notFolded : offender.folded? = none)
    (sources : Sources) :
    setup.runOn sources program =
      (.aborted (offender.failure sources)
          ((before.filter fun errorCall =>
            decide (Wrapped program errorCall.address)).filterMap (ErrorCall.warning? · sources)),
        programWithoutMessagesAt
          (addressesOf (before.filter fun errorCall =>
            !decide (Wrapped program errorCall.address))) program) := by
  rw [← filterMap_errorCall?_events] at calls_eq
  obtain ⟨beginning, isThrown, rest, events_eq, before_eq⟩ := exists_events_of_errorCall? calls_eq
  have harmless : ∀ event ∈ beginning, event.isFatal = false := by
    refine harmless_of_folded ?_
    rw [before_eq]
    exact folded
  have agrees : ∀ event ∈ beginning,
      event.Agrees fun address => decide (Wrapped program address) :=
    fun event present => by
      have isEvent : event ∈ events setup.naming program := by
        rw [events_eq]
        exact List.mem_append_left _ present
      exact agrees_of_mem_events isEvent
  have isFatal : (Event.makes offender isThrown).isFatal = true := by
    rw [Event.isFatal, notFolded]
    rfl
  have removes := removed_of_fatal harmless isFatal rest
  rw [filterMap_losingCall? agrees, before_eq] at removes
  let progress := beginning.foldl (Event.apply sources) .start
  have running : progress.isStopped = false := isStopped_foldl_apply_of_harmless harmless
  -- The visit goes on after the offender, but its event lets no later one count.
  have progress_eq : progressOf setup.naming sources program =
      { progress.countMatch with failure := some (offender.failure sources) } := by
    rw [progressOf, events_eq, List.foldl_append, List.foldl_cons,
      Event.apply_makes running, notFolded]
    exact foldl_apply_of_isStopped rfl sources rest
  have issues_eq : progress.issues = _ := issues_foldl_apply harmless
  rw [filterMap_thrownCall? agrees, before_eq] at issues_eq
  simp only [runOn_eq, progress_eq, events_eq, removes]
  rw [← issues_eq]
  rfl

/-- If the code or the message of some call is not constant, there is a first such call. -/
theorem exists_first_not_folded
    {calls : List ErrorCall}
    (some_not : ∃ errorCall ∈ calls, errorCall.folded? = none) :
    ∃ before offender after, calls = before ++ offender :: after ∧
      (∀ errorCall ∈ before, errorCall.folded? ≠ none) ∧ offender.folded? = none := by
  obtain ⟨errorCall, present, notFolded⟩ := some_not
  have isFound : (calls.find? fun errorCall => errorCall.folded?.isNone).isSome :=
    List.find?_isSome.mpr ⟨errorCall, present, by rw [notFolded]; rfl⟩
  obtain ⟨offender, found⟩ := Option.isSome_iff_exists.mp isFound
  obtain ⟨offends, before, after, calls_eq, folded⟩ := List.find?_eq_some_iff_append.mp found
  refine ⟨before, offender, after, calls_eq, ?_, Option.isNone_iff_eq_none.mp offends⟩
  intro earlier isEarlier
  simpa [Option.isSome_iff_ne_none] using folded earlier isEarlier

/-- In a completed run the code and the message of every call are constant. -/
theorem folded_of_completed
    {setup : Setup}
    {sources : Sources}
    {table : Table}
    {issues : List Issue}
    {statistics : Statistics}
    {left : Program}
    (completes : setup.runOn sources program = (.completed table issues statistics, left)) :
    ∀ errorCall ∈ errorCalls setup.naming program, errorCall.folded? ≠ none := by
  intro errorCall present notFolded
  obtain ⟨before, offender, after, calls_eq, folded, offends⟩ :=
    exists_first_not_folded ⟨errorCall, present, notFolded⟩
  rw [runOn_of_not_folded setup calls_eq folded offends] at completes
  simp at completes

end

/-! ## Completing a run -/

/-- Nothing is replaced without a replacement. -/
theorem complete_of_no_replacement
    (naming : Naming)
    (sources : Sources)
    (program : Program)
    (progress : Progress) :
    ∃ issues, Setup.complete { naming, replacement := none } sources program progress =
      (.completed progress.table issues (Setup.counted progress), program) := by
  unfold Setup.complete
  split
  · next replaced => simp at replaced
  · exact ⟨_, rfl⟩
  · exact ⟨_, rfl⟩

/-- A run is completed with the table of its visit. -/
theorem table_complete
    (setup : Setup)
    (sources : Sources)
    (program : Program)
    (progress : Progress) :
    ∃ issues statistics left, setup.complete sources program progress =
      (.completed progress.table issues statistics, left) := by
  unfold Setup.complete
  split <;> exact ⟨_, _, _, rfl⟩

end Extraction
end ErrorTemplates
