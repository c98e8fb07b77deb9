import ErrorTemplates.Extraction.Progress
import ErrorTemplates.Proofs.Tree.Address

/-!
# Events of an extraction

What a visit takes notice of: calls that make errors and declarations of the factory. An
event adds to the progress unless the extraction has ended. The progress after a list of
events is given field by field, and the events after a fatal one do not count.
-/

namespace ErrorTemplates
namespace Extraction

open Diagnostic
open Program

/-! ## Calls that make errors -/

/-- A call that makes an error, with its address. -/
structure ErrorCall where
  /-- The address. -/
  address : Address
  /-- The call. -/
  call : Call
  /-- What the call was recognised as. -/
  found : Match

namespace ErrorCall

/-- The entry for the template of a call, if the code and the message are constant. -/
def folded? (errorCall : ErrorCall) : Option Entry :=
  match constant? errorCall.found.code, constant? errorCall.found.message with
  | some code, some template => some { space := errorCall.found.maker.space, code, template }
  | _, _ => none

/-- The first argument that ought to be constant and is not, if the code or the message is
not. -/
def fault (errorCall : ErrorCall) : Argument × Node :=
  match constant? errorCall.found.code with
  | none => (.code, errorCall.found.code)
  | some _ => (.message, errorCall.found.message)

/-- The error that ends the extraction if the code or the message is not constant. -/
def failure (errorCall : ErrorCall) (sources : Sources) : Issue :=
  .notConstant (sources.locate errorCall.fault.2.span) errorCall.found.maker.space
    errorCall.fault.1

/-- The warning of a call that is wrapped and thrown, if the code and the message are
constant. -/
def warning? (errorCall : ErrorCall) (sources : Sources) : Option Issue :=
  errorCall.folded?.map fun entry =>
    .wrapped (sources.locate errorCall.call.span) entry.space entry.code

/-- A call in a child as a call in the tree above. -/
def inChild (index : Nat) (errorCall : ErrorCall) : ErrorCall :=
  { errorCall with address := index :: errorCall.address }

theorem folded?_eq_some_iff (errorCall : ErrorCall) (entry : Entry) :
    errorCall.folded? = some entry ↔
      entry.space = errorCall.found.maker.space ∧
        constant? errorCall.found.code = some entry.code ∧
          constant? errorCall.found.message = some entry.template := by
  obtain ⟨space, code, template⟩ := entry
  unfold folded?
  cases constant? errorCall.found.code <;> cases constant? errorCall.found.message <;>
    simp [eq_comm, and_comm]

end ErrorCall

/-- A call whose code or message is not constant keeps its message and ends the
extraction. -/
theorem judge_of_folded?_eq_none
    {errorCall : ErrorCall}
    (fatal : errorCall.folded? = none)
    (sources : Sources)
    (isThrown : Bool)
    (progress : Progress) :
    judge sources isThrown errorCall.call.span errorCall.found progress =
      (false, { progress.countMatch with failure := some (errorCall.failure sources) }) := by
  unfold judge ErrorCall.failure ErrorCall.fault
  unfold ErrorCall.folded? at fatal
  cases codeValue : constant? errorCall.found.code with
  | none => rfl
  | some code =>
      cases messageValue : constant? errorCall.found.message with
      | none => rfl
      | some template => simp [codeValue, messageValue] at fatal

/-- A call whose code and message are constant is recorded, unless it is thrown. -/
theorem judge_of_folded?_eq_some
    {errorCall : ErrorCall}
    {entry : Entry}
    (folds : errorCall.folded? = some entry)
    (sources : Sources)
    (isThrown : Bool)
    (progress : Progress) :
    judge sources isThrown errorCall.call.span errorCall.found progress =
      if isThrown then
        (false, progress.countMatch.warnWrapped (sources.locate errorCall.call.span) entry.space
          entry.code)
      else (true, progress.countMatch.recordEntry entry) := by
  obtain ⟨space, code, template⟩ := entry
  obtain ⟨rfl, codeValue, messageValue⟩ := (errorCall.folded?_eq_some_iff _).mp folds
  simp [judge, codeValue, messageValue]

/-! ## Events -/

/-- What a visit takes notice of. -/
inductive Event
  /-- A call that makes an error, thrown inside of another error or not. -/
  | makes (errorCall : ErrorCall) (isThrown : Bool)
  /-- A declaration of the factory, and where its name stands. -/
  | declares (address : Address) (nameSpan : Span)

namespace Event

/-- Where the event takes place. -/
def address : Event -> Address
  | .makes errorCall _ => errorCall.address
  | .declares address _ => address

/-- An event in a child as an event in the tree above. -/
def inChild (index : Nat) : Event -> Event
  | .makes errorCall isThrown => .makes (errorCall.inChild index) isThrown
  | .declares address nameSpan => .declares (index :: address) nameSpan

@[simp] theorem address_inChild (index : Nat) (event : Event) :
    (event.inChild index).address = index :: event.address := by
  cases event <;> rfl

/-- The event ends the extraction. -/
def isFatal : Event -> Bool
  | .makes errorCall _ => errorCall.folded?.isNone
  | .declares .. => false

/-- The call of the event, if it is not a declaration. -/
def errorCall? : Event -> Option ErrorCall
  | .makes errorCall _ => some errorCall
  | .declares .. => none

/-- The call of the event, if it is one that is thrown inside of another error. -/
def thrownCall? : Event -> Option ErrorCall
  | .makes errorCall true => some errorCall
  | _ => none

/-- The call of the event, if it is one that loses its message unless it is fatal. -/
def losingCall? : Event -> Option ErrorCall
  | .makes errorCall false => some errorCall
  | _ => none

/-- Where the name of a factory is declared by the event. -/
def nameSpan? : Event -> Option Span
  | .declares _ nameSpan => some nameSpan
  | _ => none

/-- The address of the call that loses its message by the event. -/
def removal? (event : Event) : Option Address := event.losingCall?.map ErrorCall.address

/-- The progress after an event. -/
def apply (sources : Sources) (progress : Progress) (event : Event) : Progress :=
  if progress.isStopped then progress
  else
    match event with
    | .makes errorCall isThrown =>
        (judge sources isThrown errorCall.call.span errorCall.found progress).2
    | .declares _ nameSpan => progress.recordSite nameSpan

@[simp] theorem isFatal_inChild (index : Nat) (event : Event) :
    (event.inChild index).isFatal = event.isFatal := by
  cases event <;> rfl

@[simp] theorem removal?_inChild (index : Nat) (event : Event) :
    (event.inChild index).removal? = event.removal?.map (index :: ·) := by
  rcases event with ⟨errorCall, _ | _⟩ | _ <;> rfl

@[simp] theorem apply_inChild
    (sources : Sources)
    (progress : Progress)
    (index : Nat)
    (event : Event) :
    apply sources progress (event.inChild index) = apply sources progress event := by
  cases event <;> rfl

/-- A removal takes place where the event does. -/
theorem address_of_removal?_eq_some
    {event : Event}
    {address : Address}
    (removes : event.removal? = some address) : event.address = address := by
  rcases event with ⟨errorCall, _ | _⟩ | _ <;>
    simp_all [removal?, losingCall?, Event.address]

/-! ### One event -/

theorem apply_of_isStopped
    {progress : Progress}
    (stopped : progress.isStopped = true)
    (sources : Sources)
    (event : Event) : apply sources progress event = progress :=
  if_pos stopped

section
variable {progress : Progress} (running : progress.isStopped = false) (sources : Sources)
include running

theorem apply_declares (address : Address) (nameSpan : Span) :
    apply sources progress (.declares address nameSpan) = progress.recordSite nameSpan := by
  simp [apply, running]

theorem apply_makes (errorCall : ErrorCall) (isThrown : Bool) :
    apply sources progress (.makes errorCall isThrown) =
      match errorCall.folded? with
      | none => { progress.countMatch with failure := some (errorCall.failure sources) }
      | some entry =>
          if isThrown then
            progress.countMatch.warnWrapped (sources.locate errorCall.call.span) entry.space
              entry.code
          else progress.countMatch.recordEntry entry := by
  cases folded : errorCall.folded? with
  | none => simp [apply, running, judge_of_folded?_eq_none folded]
  | some entry => cases isThrown <;> simp [apply, running, judge_of_folded?_eq_some folded]

/-- An event that is not fatal is a declaration, a call with a warning or one with an
entry. -/
theorem apply_of_harmless {event : Event} (harmless : event.isFatal = false) :
    (∃ address nameSpan, event = .declares address nameSpan ∧
      apply sources progress event = progress.recordSite nameSpan) ∨
    (∃ errorCall entry, event = .makes errorCall true ∧ errorCall.folded? = some entry ∧
      apply sources progress event =
        progress.countMatch.warnWrapped (sources.locate errorCall.call.span) entry.space
          entry.code) ∨
    ∃ errorCall entry, event = .makes errorCall false ∧ errorCall.folded? = some entry ∧
      apply sources progress event = progress.countMatch.recordEntry entry := by
  cases event with
  | declares address nameSpan =>
      exact .inl ⟨address, nameSpan, rfl, apply_declares running sources address nameSpan⟩
  | makes errorCall isThrown =>
      have applied := apply_makes running sources errorCall isThrown
      cases folded : errorCall.folded? with
      | none => simp [isFatal, folded] at harmless
      | some entry =>
          rw [folded] at applied
          cases isThrown with
          | true => exact .inr (.inl ⟨errorCall, entry, rfl, folded, applied⟩)
          | false => exact .inr (.inr ⟨errorCall, entry, rfl, folded, applied⟩)

end

/-- A fatal event ends the extraction, and no other event does. -/
theorem isStopped_apply (sources : Sources) (progress : Progress) (event : Event) :
    (apply sources progress event).isStopped = (progress.isStopped || event.isFatal) := by
  cases running : progress.isStopped with
  | true => rw [apply_of_isStopped running, running, Bool.true_or]
  | false =>
      cases event with
      | declares => rw [apply_declares running]; exact running
      | makes errorCall isThrown =>
          rw [apply_makes running, isFatal]
          cases folded : errorCall.folded? with
          | none => rfl
          | some entry => cases isThrown <;> exact running

end Event

/-! ## Several events -/

/-- Once the extraction has ended, no event adds to the progress. -/
theorem foldl_apply_of_isStopped
    {progress : Progress}
    (stopped : progress.isStopped = true)
    (sources : Sources)
    (events : List Event) :
    events.foldl (Event.apply sources) progress = progress := by
  induction events with
  | nil => rfl
  | cons event rest inductionHypothesis =>
      rw [List.foldl_cons, Event.apply_of_isStopped stopped, inductionHypothesis]

theorem isStopped_foldl_apply
    (sources : Sources)
    (events : List Event)
    (progress : Progress) :
    (events.foldl (Event.apply sources) progress).isStopped =
      (progress.isStopped || events.any Event.isFatal) := by
  induction events generalizing progress with
  | nil => simp
  | cons event rest inductionHypothesis =>
      rw [List.foldl_cons, inductionHypothesis, Event.isStopped_apply, List.any_cons,
        Bool.or_assoc]

/-- A part of the progress follows the events one by one when none of them is fatal and
each either changes that part by what it has to say or leaves it. -/
theorem part_foldl_apply
    {sources : Sources}
    {events : List Event}
    {progress : Progress}
    (part : Progress -> β)
    (said? : Event -> Option γ)
    (change : β -> γ -> β)
    (step : ∀ (current : Progress) (event : Event), current.isStopped = false ->
      event.isFatal = false ->
      part (Event.apply sources current event) =
        (said? event).elim (part current) (change (part current)))
    (running : progress.isStopped = false)
    (harmless : ∀ event ∈ events, event.isFatal = false) :
    part (events.foldl (Event.apply sources) progress) =
      (events.filterMap said?).foldl change (part progress) := by
  induction events generalizing progress with
  | nil => rfl
  | cons event rest inductionHypothesis =>
      obtain ⟨eventHarmless, restHarmless⟩ := List.forall_mem_cons.mp harmless
      have stillRunning : (Event.apply sources progress event).isStopped = false := by
        rw [Event.isStopped_apply, running, eventHarmless, Bool.or_false]
      rw [List.foldl_cons, inductionHypothesis stillRunning restHarmless,
        step progress event running eventHarmless]
      cases said : said? event <;> simp [said]

/-- The addresses of the calls that lose their messages by events, of which those from the
first fatal one on do not count. -/
def removals (isStopped : Bool) (events : List Event) : List Address :=
  if isStopped then []
  else (events.takeWhile fun event => !event.isFatal).filterMap Event.removal?

@[simp] theorem removals_true (events : List Event) : removals true events = [] := rfl

@[simp] theorem removals_nil (isStopped : Bool) : removals isStopped [] = [] := by
  cases isStopped <;> rfl

theorem removals_cons (isStopped : Bool) (event : Event) (rest : List Event) :
    removals isStopped (event :: rest) =
      if isStopped || event.isFatal then []
      else event.removal?.toList ++ removals false rest := by
  cases isStopped with
  | true => rfl
  | false =>
      cases fatal : event.isFatal <;> cases removed : event.removal? <;>
        simp [removals, fatal, removed]

theorem removals_append (isStopped : Bool) (first second : List Event) :
    removals isStopped (first ++ second) =
      removals isStopped first ++ removals (isStopped || first.any Event.isFatal) second := by
  induction first generalizing isStopped with
  | nil => simp
  | cons event rest inductionHypothesis =>
      rw [List.cons_append, removals_cons, removals_cons, List.any_cons, ← Bool.or_assoc]
      cases ended : isStopped || event.isFatal with
      | true => simp
      | false => simp [inductionHypothesis]

theorem removals_map_inChild (isStopped : Bool) (index : Nat) (events : List Event) :
    removals isStopped (events.map (Event.inChild index)) =
      (removals isStopped events).map (index :: ·) := by
  induction events generalizing isStopped with
  | nil => simp
  | cons event rest inductionHypothesis =>
      rw [List.map_cons, removals_cons, removals_cons, Event.isFatal_inChild,
        Event.removal?_inChild, inductionHypothesis]
      cases isStopped || event.isFatal <;> cases event.removal? <;> simp

/-- Nothing is removed outside of the places of the events. -/
theorem mem_address_of_mem_removals
    {isStopped : Bool}
    {events : List Event}
    {address : Address}
    (removed : address ∈ removals isStopped events) :
    ∃ event ∈ events, event.address = address := by
  cases isStopped with
  | true => simp at removed
  | false =>
      obtain ⟨event, counted, removes⟩ := List.mem_filterMap.mp removed
      exact ⟨event, (List.takeWhile_sublist _).subset counted,
        Event.address_of_removal?_eq_some removes⟩

end Extraction
end ErrorTemplates
