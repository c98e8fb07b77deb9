import ErrorTemplates.Proofs.Extraction.Outcome
import ErrorTemplates.Proofs.Tree.Positions

/-!
# Runs up to positions

The outline of an event says what it adds to the progress apart from positions in a text. Runs
over programs whose events have the same outlines end alike: they differ in nothing but the
locations of their issues.
-/

namespace ErrorTemplates
namespace Text

/-- The location that stands for all others. -/
def Location.nowhere : Location := locate "" [] 0

end Text

namespace Diagnostic

/-- What an issue says apart from where it was found. -/
def Issue.withoutLocation : Issue -> Issue
  | .notConstant _ space argument => .notConstant .nowhere space argument
  | .wrapped _ space code => .wrapped .nowhere space code
  | .ambiguous _ factory count => .ambiguous .nowhere factory count
  | .unreadable _ reason => .unreadable .nowhere reason

end Diagnostic

namespace Extraction

open Diagnostic
open Program

/-- What an event adds to the progress apart from positions. -/
inductive Outline
  /-- A call that makes an error in a name space: the entry for its template if the code and
  the message are constant, and the first of them that is not otherwise. -/
  | makes
      (address : Address)
      (isThrown : Bool)
      (space : String)
      (folded? : Option Entry)
      (fault : Argument)
  /-- A declaration of the factory. -/
  | declares (address : Address)

/-- The outline of an event. -/
def Event.outline : Event -> Outline
  | .makes errorCall isThrown =>
      .makes errorCall.address isThrown errorCall.found.maker.space errorCall.folded?
        errorCall.fault.1
  | .declares address _ => .declares address

namespace Outline

/-- An outline in a child as an outline in the tree above. -/
def inChild (index : Nat) : Outline -> Outline
  | .makes address isThrown space folded? fault =>
      .makes (index :: address) isThrown space folded? fault
  | .declares address => .declares (index :: address)

/-- The event ends the extraction. -/
def isFatal : Outline -> Bool
  | .makes _ _ _ folded? _ => folded?.isNone
  | .declares _ => false

/-- The address of the call that loses its message by the event. -/
def removal? : Outline -> Option Address
  | .makes address false _ _ _ => some address
  | _ => none

/-- The progress after an event, if nothing stands anywhere. -/
def apply (progress : Progress) (outline : Outline) : Progress :=
  if progress.isStopped then progress
  else
    match outline with
    | .makes _ _ space none fault =>
        { progress.countMatch with failure := some (.notConstant .nowhere space fault) }
    | .makes _ true _ (some entry) _ =>
        progress.countMatch.warnWrapped .nowhere entry.space entry.code
    | .makes _ false _ (some entry) _ => progress.countMatch.recordEntry entry
    | .declares _ => progress.recordSite .nowhere

end Outline

namespace Event

@[simp] theorem outline_inChild (index : Nat) (event : Event) :
    (event.inChild index).outline = event.outline.inChild index := by
  cases event <;> rfl

@[simp] theorem isFatal_outline (event : Event) : event.outline.isFatal = event.isFatal := by
  cases event <;> rfl

@[simp] theorem removal?_outline (event : Event) : event.outline.removal? = event.removal? := by
  rcases event with ⟨errorCall, _ | _⟩ | _ <;> rfl

end Event

/-! ## The progress -/

/-- The progress apart from where anything was found. -/
def Progress.withoutLocations (progress : Progress) : Progress :=
  { progress with
    issues := progress.issues.map Issue.withoutLocation
    sites := { spans := progress.sites.spans.map fun _ => Span.nowhere }
    failure := progress.failure.map Issue.withoutLocation }

@[simp] theorem isStopped_withoutLocations (progress : Progress) :
    progress.withoutLocations.isStopped = progress.isStopped := by
  simp [Progress.isStopped, Progress.withoutLocations]

/-- Apart from locations, an event adds to the progress what its outline says. -/
theorem withoutLocations_apply (sources : Sources) (progress : Progress) (event : Event) :
    (Event.apply sources progress event).withoutLocations =
      Outline.apply progress.withoutLocations event.outline := by
  unfold Outline.apply
  rw [isStopped_withoutLocations]
  cases running : progress.isStopped with
  | true => rw [Event.apply_of_isStopped running, if_pos rfl]
  | false =>
      rw [if_neg Bool.false_ne_true]
      cases event with
      | declares address nameSpan =>
          rw [Event.apply_declares running]
          simp [Event.outline, Progress.withoutLocations, Progress.recordSite, Sites.record]
      | makes errorCall isThrown =>
          rw [Event.apply_makes running]
          cases folded : errorCall.folded? with
          | none => simp [Event.outline, folded, Progress.withoutLocations, Progress.countMatch,
              ErrorCall.failure, Issue.withoutLocation]
          | some entry =>
              simp only [Event.outline, folded]
              cases isThrown with
              | true => simp [Progress.withoutLocations, Progress.countMatch,
                  Progress.warnWrapped, Issue.withoutLocation]
              | false => rfl

/-- The progress after events follows from their outlines, apart from locations. -/
theorem withoutLocations_foldl_apply (sources : Sources) (events : List Event) :
    (events.foldl (Event.apply sources) .start).withoutLocations =
      (events.map Event.outline).foldl Outline.apply .start := by
  rw [List.foldl_map]
  exact (List.foldl_hom Progress.withoutLocations fun progress event =>
    (withoutLocations_apply sources progress event).symm).symm

/-- What events remove follows from their outlines. -/
theorem removed_eq_of_outlines_eq
    {first second : List Event}
    (same : first.map Event.outline = second.map Event.outline)
    (isStopped : Bool) : removed isStopped first = removed isStopped second := by
  have removals_eq (events : List Event) :
      removals isStopped events =
        if isStopped then []
        else
          ((events.map Event.outline).takeWhile fun outline => !outline.isFatal).filterMap
            Outline.removal? := by
    simp [removals, List.takeWhile_map, List.filterMap_map, Function.comp_def]
  funext address
  rw [removed, removed, removals_eq, removals_eq, same]

/-! ## Runs -/

/-- The result of a run apart from where anything was found. -/
def Outcome.withoutLocations : Outcome -> Outcome
  | .completed table issues statistics =>
      .completed table (issues.map Issue.withoutLocation) statistics
  | .aborted error issues => .aborted error.withoutLocation (issues.map Issue.withoutLocation)

section
variable (naming : Naming) (sources : Sources) (program : Program)

/-- Without a replacement the result of a completed visit follows from its progress, apart
from locations. -/
theorem withoutLocations_complete (progress : Progress) :
    (Setup.complete { naming, replacement := none } sources program progress).1.withoutLocations =
      let outlined := progress.withoutLocations
      .completed outlined.table
        (outlined.issues ++
          if 2 ≤ outlined.sites.size then
            [.ambiguous .nowhere naming.factory outlined.sites.size]
          else [])
        (Setup.counted outlined) := by
  rcases spans : progress.sites.spans with _ | ⟨first, _ | ⟨second, others⟩⟩
  · simp [Setup.complete, Sites.plan, spans, Outcome.withoutLocations, Sites.size,
      Progress.withoutLocations, Setup.counted]
  · simp [Setup.complete, Sites.plan, spans, Outcome.withoutLocations, Sites.size,
      Progress.withoutLocations, Setup.counted]
  · simp [Setup.complete, Sites.plan, spans, Outcome.withoutLocations, Sites.size,
      Progress.withoutLocations, Setup.counted, Issue.withoutLocation]

/-- Without a replacement a run leaves the program without the messages that its events
remove. -/
theorem program_runOn :
    (Setup.runOn { naming, replacement := none } sources program).2 =
      programWithoutMessagesAt (removed false (events naming program)) program := by
  rw [runOn_eq]
  cases failed : (progressOf naming sources program).failure with
  | some error => simp [failed]
  | none =>
      obtain ⟨issues, complete_eq⟩ := complete_of_no_replacement naming sources
        (programWithoutMessagesAt (removed false (events naming program)) program)
        (progressOf naming sources program)
      simp [failed, complete_eq]

end

/-- Runs over programs whose events have the same outlines end alike. -/
theorem withoutLocations_runOn_eq
    {naming : Naming}
    {first second : Program}
    (same : (events naming first).map Event.outline = (events naming second).map Event.outline)
    (firstSources secondSources : Sources) :
    (Setup.runOn { naming, replacement := none } firstSources first).1.withoutLocations =
      (Setup.runOn { naming, replacement := none } secondSources second).1.withoutLocations := by
  have progress_eq : (progressOf naming firstSources first).withoutLocations =
      (progressOf naming secondSources second).withoutLocations := by
    rw [progressOf, progressOf, withoutLocations_foldl_apply, withoutLocations_foldl_apply, same]
  have failure_eq := congrArg Progress.failure progress_eq
  have issues_eq := congrArg Progress.issues progress_eq
  simp only [Progress.withoutLocations] at failure_eq issues_eq
  rw [runOn_eq, runOn_eq]
  cases firstFailed : (progressOf naming firstSources first).failure with
  | some error =>
      rw [firstFailed] at failure_eq
      obtain ⟨other, secondFailed, error_eq⟩ := Option.map_eq_some_iff.mp failure_eq.symm
      simp [firstFailed, secondFailed, Outcome.withoutLocations, error_eq, issues_eq]
  | none =>
      rw [firstFailed] at failure_eq
      have secondFailed := Option.map_eq_none_iff.mp failure_eq.symm
      simp only [firstFailed, secondFailed, withoutLocations_complete, progress_eq]

end Extraction
end ErrorTemplates
