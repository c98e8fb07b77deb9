import ErrorTemplates.Proofs.Extraction.ProgramEvents
import Mathlib.Data.List.Basic

/-!
# The account of a visit

What the progress has after events of which none is fatal, field by field, and what it has
after the first fatal one. The events of a program and each beginning of them are accounted
for by the calls that make errors.
-/

namespace ErrorTemplates
namespace Extraction

open Diagnostic
open Program

/-- What is found for each element of a list is found in the order of the list. -/
theorem map_eq_map_some_filterMap
    {find? : α -> Option β}
    {elements : List α}
    (found : ∀ element ∈ elements, find? element ≠ none) :
    elements.map find? = (elements.filterMap find?).map some := by
  rw [List.map_filterMap, ← List.filterMap_eq_map]
  refine List.filterMap_congr fun element present => ?_
  obtain ⟨result, isResult⟩ := Option.ne_none_iff_exists'.mp (found element present)
  simp [isResult]

/-! ## Calls in events -/

/-- The event is thrown exactly when its call is among those that are thrown. -/
def Event.Agrees (thrown : Selection) : Event -> Prop
  | .makes errorCall isThrown => isThrown = thrown errorCall.address
  | .declares .. => True

section
variable {thrown : Selection} {events : List Event}
variable (agrees : ∀ event ∈ events, event.Agrees thrown)
include agrees

/-- The calls that lose their messages are those that are not thrown. -/
theorem filterMap_losingCall? :
    events.filterMap Event.losingCall? =
      (events.filterMap Event.errorCall?).filter fun errorCall => !thrown errorCall.address := by
  rw [List.filter_filterMap]
  refine List.filterMap_congr fun event present => ?_
  cases event with
  | declares => rfl
  | makes errorCall isThrown =>
      have eventAgrees : isThrown = thrown errorCall.address := agrees _ present
      cases isThrown <;>
        simp [Event.losingCall?, Event.errorCall?, Option.filter, ← eventAgrees]

theorem filterMap_thrownCall? :
    events.filterMap Event.thrownCall? =
      (events.filterMap Event.errorCall?).filter fun errorCall => thrown errorCall.address := by
  rw [List.filter_filterMap]
  refine List.filterMap_congr fun event present => ?_
  cases event with
  | declares => rfl
  | makes errorCall isThrown =>
      have eventAgrees : isThrown = thrown errorCall.address := agrees _ present
      cases isThrown <;>
        simp [Event.thrownCall?, Event.errorCall?, Option.filter, ← eventAgrees]

end

/-- In a program the wrapped calls are the thrown ones. -/
theorem agrees_of_mem_events
    {naming : Naming}
    {program : Program}
    {event : Event}
    (present : event ∈ events naming program) :
    event.Agrees fun address => decide (Wrapped program address) := by
  obtain ⟨⟨address, node⟩, _, isEvent⟩ := List.mem_filterMap.mp present
  cases node with
  | call span callee arguments =>
      obtain ⟨found, _, rfl⟩ := Option.map_eq_some_iff.mp isEvent
      rfl
  | function span signature parameters body =>
      simp only [eventAt?] at isEvent
      split at isEvent
      · obtain rfl := Option.some.inj isEvent
        exact trivial
      · simp at isEvent
  | _ => simp [eventAt?] at isEvent

/-- The calls in the events of a program are its calls that make errors. -/
theorem filterMap_errorCall?_events (naming : Naming) (program : Program) :
    (events naming program).filterMap Event.errorCall? = errorCalls naming program := by
  rw [events, errorCalls, List.filterMap_filterMap]
  refine List.filterMap_congr fun occurrence _ => ?_
  obtain ⟨address, node⟩ := occurrence
  cases node with
  | call span callee arguments =>
      cases recognised : naming.match? callee arguments <;>
        simp [eventAt?, errorCallAt?, recognised, Event.errorCall?]
  | function span signature parameters body =>
      by_cases isFactory : signature.name = naming.factory <;>
        simp [eventAt?, errorCallAt?, isFactory, Event.errorCall?]
  | _ => rfl

/-! ## The progress after harmless events -/

section
variable {sources : Sources} {events : List Event}
variable (harmless : ∀ event ∈ events, event.isFatal = false)
include harmless

/-- Harmless events do not end an extraction. -/
theorem isStopped_foldl_apply_of_harmless :
    (events.foldl (Event.apply sources) .start).isStopped = false := by
  have noneFatal : events.any Event.isFatal = false :=
    List.any_eq_false.mpr fun event present => by simp [harmless event present]
  rw [isStopped_foldl_apply, noneFatal]
  rfl

/-- The entries of the calls that lose their messages are recorded in order. -/
theorem table_foldl_apply :
    (events.foldl (Event.apply sources) .start).table =
      ((events.filterMap Event.losingCall?).filterMap ErrorCall.folded?).foldl Table.insert
        .empty := by
  rw [List.filterMap_filterMap]
  refine part_foldl_apply Progress.table _ Table.insert ?_ rfl harmless
  intro current event running eventHarmless
  obtain ⟨_, _, rfl, applied⟩ | ⟨_, _, rfl, folded, applied⟩ | ⟨_, _, rfl, folded, applied⟩ :=
    Event.apply_of_harmless running sources eventHarmless
  · rw [applied]; rfl
  · rw [applied]; rfl
  · rw [applied, Event.losingCall?, Option.bind_some, folded]; rfl

/-- The warnings of the thrown calls are raised in order. -/
theorem issues_foldl_apply :
    (events.foldl (Event.apply sources) .start).issues =
      (events.filterMap Event.thrownCall?).filterMap (ErrorCall.warning? · sources) := by
  let warning? (event : Event) := event.thrownCall?.bind (ErrorCall.warning? · sources)
  refine (part_foldl_apply Progress.issues warning? (fun issues issue => issues ++ [issue]) ?_
    rfl harmless).trans ?_
  · intro current event running eventHarmless
    obtain ⟨_, _, rfl, applied⟩ | ⟨_, _, rfl, folded, applied⟩ | ⟨_, _, rfl, folded, applied⟩ :=
      Event.apply_of_harmless running sources eventHarmless
    · rw [applied]; rfl
    · simp [applied, warning?, Event.thrownCall?, ErrorCall.warning?, folded]; rfl
    · rw [applied]; rfl
  · rw [List.foldl_append_eq_append, ← List.flatMap_def, List.flatMap_singleton',
      List.filterMap_filterMap]
    rfl

/-- The declarations of the factory are recorded in order. -/
theorem sites_foldl_apply :
    (events.foldl (Event.apply sources) .start).sites.spans =
      events.filterMap Event.nameSpan? := by
  refine (part_foldl_apply (·.sites.spans) Event.nameSpan? (fun spans span => spans ++ [span]) ?_
    rfl harmless).trans ?_
  · intro current event running eventHarmless
    obtain ⟨_, _, rfl, applied⟩ | ⟨_, _, rfl, _, applied⟩ | ⟨_, _, rfl, _, applied⟩ :=
      Event.apply_of_harmless running sources eventHarmless
    all_goals rw [applied]; rfl
  · rw [List.foldl_append_eq_append, ← List.flatMap_def, List.flatMap_singleton']
    rfl

/-- No event replaces a declaration. -/
theorem substituted_foldl_apply :
    (events.foldl (Event.apply sources) .start).statistics.substituted = false := by
  refine (part_foldl_apply (·.statistics.substituted) (fun _ => (none : Option Unit))
    (fun substituted _ => substituted) ?_ rfl harmless).trans ?_
  · intro current event running eventHarmless
    obtain ⟨_, _, rfl, applied⟩ | ⟨_, _, rfl, _, applied⟩ | ⟨_, _, rfl, _, applied⟩ :=
      Event.apply_of_harmless running sources eventHarmless
    all_goals rw [applied]; rfl
  · rw [List.filterMap_none, List.foldl_nil]
    rfl

/-- What is counted is the calls that make errors, those that lose their messages and those
that are thrown. -/
theorem counts_foldl_apply :
    let statistics := (events.foldl (Event.apply sources) .start).statistics
    statistics.calls = (events.filterMap Event.errorCall?).length ∧
      statistics.stripped = (events.filterMap Event.losingCall?).length ∧
      statistics.wrapped = (events.filterMap Event.thrownCall?).length := by
  have counted (count : Progress -> Nat) (call? : Event -> Option ErrorCall)
      (none_yet : count .start = 0)
      (step : ∀ (current : Progress) (event : Event), current.isStopped = false ->
        event.isFatal = false ->
        count (Event.apply sources current event) =
          (call? event).elim (count current) fun _ => count current + 1) :
      count (events.foldl (Event.apply sources) .start) = (events.filterMap call?).length := by
    rw [part_foldl_apply count call? (fun number _ => number + 1) step rfl harmless,
      List.foldl_add_const, none_yet, Nat.zero_add, Nat.one_mul]
  refine ⟨counted (·.statistics.calls) _ rfl ?_, counted (·.statistics.stripped) _ rfl ?_,
    counted (·.statistics.wrapped) _ rfl ?_⟩
  all_goals
    intro current event running eventHarmless
    obtain ⟨_, _, rfl, applied⟩ | ⟨_, _, rfl, _, applied⟩ | ⟨_, _, rfl, _, applied⟩ :=
      Event.apply_of_harmless running sources eventHarmless
    all_goals rw [applied]; rfl

end

end Extraction
end ErrorTemplates
