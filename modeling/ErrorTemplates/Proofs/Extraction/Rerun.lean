import ErrorTemplates.Proofs.Extraction.Repeating

/-!
# Running again

A run over a program that a completed run has left finds no template and changes nothing, if no
call passed arguments through. It raises the same issues, since what raises them is left where it
was in the text.
-/

namespace ErrorTemplates
namespace Extraction

open Diagnostic
open Program

/-! ## The progress of a visit that is made again -/

/-- The progress after a notice. -/
def Notice.apply (sources : Sources) (progress : Progress) : Notice -> Progress
  | .wraps span (some entry) =>
      progress.countMatch.warnWrapped (sources.locate span) entry.space entry.code
  | .wraps _ none => progress
  | .loses => progress
  | .declares nameSpan => progress.recordSite nameSpan

/-- Counts apart from the calls that lost their messages. -/
def Statistics.withoutStripped (statistics : Statistics) : Statistics :=
  { statistics with calls := statistics.wrapped, stripped := 0, duplicates := 0 }

/-- The progress apart from the calls that lost their messages. -/
def Progress.withoutTemplates (progress : Progress) : Progress :=
  { progress with table := .empty, statistics := progress.statistics.withoutStripped }

/-- Apart from the calls that lose their messages, harmless events make the progress of what
stays. -/
theorem withoutTemplates_foldl_apply
    {events : List Event}
    (harmless : Harmless events)
    (sources : Sources) :
    (events.foldl (Event.apply sources) .start).withoutTemplates =
      (staying events).foldl (Notice.apply sources) .start := by
  have skips : (fun progress (notice : Notice) =>
      if notice.stays then Notice.apply sources progress notice else progress) =
        Notice.apply sources := by
    funext progress notice
    cases notice <;> rfl
  rw [staying, List.foldl_filter, skips]
  refine (part_foldl_apply Progress.withoutTemplates (fun event => some event.notice)
    (Notice.apply sources) ?_ rfl harmless).trans ?_
  · intro current event running eventHarmless
    obtain ⟨_, _, rfl, applied⟩ | ⟨_, _, rfl, folded, applied⟩ | ⟨_, _, rfl, folded, applied⟩ :=
      Event.apply_of_harmless running sources eventHarmless
    · rw [applied]; rfl
    · simp only [applied, Event.notice, folded]
      rfl
    · rw [applied]; rfl
  · rw [List.filterMap_eq_map']
    rfl

/-- Harmless events that all stay make the progress of what they say. -/
theorem foldl_apply_of_staying
    {events : List Event}
    {progress : Progress}
    (running : progress.isStopped = false)
    (harmless : Harmless events)
    (stay : ∀ event ∈ events, event.notice.stays = true)
    (sources : Sources) :
    events.foldl (Event.apply sources) progress =
      (events.map Event.notice).foldl (Notice.apply sources) progress := by
  induction events generalizing progress with
  | nil => rfl
  | cons event rest inductionHypothesis =>
      obtain ⟨eventHarmless, restHarmless⟩ := List.forall_mem_cons.mp harmless
      obtain ⟨eventStays, restStay⟩ := List.forall_mem_cons.mp stay
      have applied_eq : Event.apply sources progress event =
          Notice.apply sources progress event.notice := by
        obtain ⟨_, _, rfl, applied⟩ | ⟨_, _, rfl, folded, applied⟩ | ⟨_, _, rfl, _, _⟩ :=
          Event.apply_of_harmless running sources eventHarmless
        · exact applied
        · rw [applied, Event.notice, folded]
          rfl
        · exact absurd eventStays Bool.false_ne_true
      have stillRunning : (Event.apply sources progress event).isStopped = false := by
        rw [Event.isStopped_apply, running, eventHarmless, Bool.or_false]
      rw [List.foldl_cons, inductionHypothesis stillRunning restHarmless restStay, applied_eq,
        List.map_cons, List.foldl_cons]

/-- A visit without templates is completed with an empty table and the same issues, whatever
program it leaves. -/
theorem complete_withoutTemplates
    {naming : Naming}
    {sources : Sources}
    {program left : Program}
    {progress : Progress}
    {table : Table}
    {issues : List Issue}
    {statistics : Statistics}
    (completes : Setup.complete { naming, replacement := none } sources program progress =
      (.completed table issues statistics, left))
    (other : Program) :
    Setup.complete { naming, replacement := none } sources other progress.withoutTemplates =
      (.completed .empty issues statistics.withoutStripped, other) := by
  have spansToo : progress.withoutTemplates.sites.spans = progress.sites.spans := rfl
  rcases spans : progress.sites.spans with _ | ⟨first, _ | ⟨second, others⟩⟩ <;>
    (simp only [Setup.complete, Sites.plan, spans, spansToo] at completes ⊢
     obtain ⟨outcome_eq, rfl⟩ := Prod.mk.inj completes
     obtain ⟨rfl, rfl, rfl⟩ := Outcome.completed.inj outcome_eq
     rfl)

/-! ## Runs -/

/-- A name that does not end in the suffix after something else has no name space. -/
theorem space?_eq_none
    {naming : Naming}
    {name : String}
    (notSuffixed : ∀ front : List Char, front ≠ [] ->
      name.toList ≠ front ++ naming.suffix.toList) : naming.space? name = none := by
  unfold Naming.space?
  refine if_neg fun suffixed => ?_
  obtain ⟨isSuffix, longer⟩ : naming.suffix.toList.isSuffixOf name.toList = true ∧
      0 < name.toList.length - naming.suffix.toList.length := by
    simpa using suffixed
  obtain ⟨front, name_eq⟩ := List.isSuffixOf_iff_suffix.mp isSuffix
  refine notSuffixed front ?_ name_eq.symm
  rintro rfl
  rw [← name_eq, List.nil_append, Nat.sub_self] at longer
  exact Nat.lt_irrefl 0 longer

/-- The events of a program pass nothing through if its run is completed and the calls that lose
their messages have two arguments. -/
theorem passNothing_events
    {naming : Naming}
    {program : Program}
    (folded : ∀ errorCall ∈ errorCalls naming program, errorCall.folded? ≠ none)
    (two : ∀ errorCall ∈ losingCalls naming program, errorCall.call.arguments.length = 2) :
    PassNothing (events naming program) := by
  intro event present
  refine ⟨harmless_events folded event present, fun errorCall loses => two errorCall ?_⟩
  rw [losingCalls, ← filterMap_errorCall?_events,
    ← filterMap_losingCall? fun _ => agrees_of_mem_events]
  exact List.mem_filterMap.mpr ⟨event, present, loses⟩

/-- Events that say nothing of a call that loses its message remove nothing. -/
theorem removed_of_staying
    {events : List Event}
    (stay : ∀ event ∈ events, event.notice.stays = true) : removed false events = .none := by
  funext address
  simp only [removed, removals, Bool.false_eq_true, if_false, List.contains_eq_mem,
    decide_eq_false_iff_not, Selection.none]
  intro isRemoved
  obtain ⟨event, counted, removes⟩ := List.mem_filterMap.mp isRemoved
  have stays := stay event ((List.takeWhile_sublist _).subset counted)
  rcases event with ⟨errorCall, _ | _⟩ | _
  · exact absurd stays Bool.false_ne_true
  · simp [Event.removal?, Event.losingCall?] at removes
  · simp [Event.removal?, Event.losingCall?] at removes

/-- Events that say the same are fatal alike, unless they are those of calls that lose their
messages. -/
theorem isFatal_eq_of_notice_eq
    {first second : Event}
    (stays : first.notice.stays = true)
    (same : first.notice = second.notice) : first.isFatal = second.isFatal := by
  rcases first with ⟨errorCall, _ | _⟩ | _ <;> rcases second with ⟨other, _ | _⟩ | _ <;>
    simp_all [Event.notice, Notice.stays, Event.isFatal]

section
variable {naming : Naming} {program left : Program}
variable (notSuffixed : ∀ front : List Char, front ≠ [] ->
  naming.factory.toList ≠ front ++ naming.suffix.toList)
variable (passes : PassNothing (events naming program))
variable (leaves : left = programWithoutMessagesAt (removed false (events naming program)) program)
include notSuffixed passes leaves

/-- The events of what is left of a program say what stays. -/
theorem map_notice_events_left :
    (events naming left).map Event.notice = staying (events naming program) := by
  have repeatsItems : ∀ item ∈ program.items, Repeats naming .plain item :=
    fun item _ => repeats (space?_eq_none notSuffixed) .plain item
  rw [← traceAll_items] at passes
  have items_eq : left.items = allSettled naming .plain program.items := by
    rw [leaves, programWithoutMessagesAt, ← traceAll_items]
    exact allWithoutMessagesAt_removed_traceAll (fun item _ => settles naming .plain item)
      (harmless_of_passNothing passes)
  rw [← traceAll_items naming left, ← traceAll_items naming program, items_eq]
  exact map_notice_traceAll_allSettled repeatsItems passes

theorem exists_event_of_mem_events_left
    {event : Event}
    (present : event ∈ events naming left) :
    event.notice.stays = true ∧
      ∃ earlier ∈ events naming program, earlier.notice = event.notice := by
  have isNotice := List.mem_map_of_mem (f := Event.notice) present
  rw [map_notice_events_left notSuffixed passes leaves] at isNotice
  obtain ⟨isEarlier, stays⟩ := List.mem_filter.mp isNotice
  exact ⟨stays, List.mem_map.mp isEarlier⟩

/-- The visit of what is left of a program makes the progress of what stays and leaves it. -/
theorem runOn_left (sources : Sources) :
    Setup.runOn { naming, replacement := none } sources left =
      Setup.complete { naming, replacement := none } sources left
        (progressOf naming sources program).withoutTemplates := by
  have stay : ∀ event ∈ events naming left, event.notice.stays = true :=
    fun _ present => (exists_event_of_mem_events_left notSuffixed passes leaves present).1
  have harmless : Harmless (events naming left) := by
    intro event present
    obtain ⟨stays, earlier, isEarlier, same⟩ :=
      exists_event_of_mem_events_left notSuffixed passes leaves present
    rw [isFatal_eq_of_notice_eq stays same.symm]
    exact harmless_of_passNothing passes earlier isEarlier
  have progress_eq : progressOf naming sources left =
      (progressOf naming sources program).withoutTemplates := by
    rw [progressOf, progressOf, foldl_apply_of_staying rfl harmless stay,
      map_notice_events_left notSuffixed passes leaves,
      withoutTemplates_foldl_apply (harmless_of_passNothing passes)]
  have running : (progressOf naming sources left).failure = none :=
    Option.isNone_iff_eq_none.mp (Option.isSome_eq_false_iff.mp
      (isStopped_foldl_apply_of_harmless harmless))
  rw [progress_eq] at running
  rw [runOn_eq]
  simp only [removed_of_staying stay, programWithoutMessagesAt, allWithoutMessagesAt_none,
    progress_eq, running]

end

/-- Running again on what a completed run without a replacement has left changes nothing, finds
no template and raises the same issues, if the name of the factory does not end in the suffix and
every call that lost its message had two arguments. -/
theorem run_again
    {naming : Naming}
    {source : Source}
    {program left : Program}
    {table : Table}
    {issues : List Issue}
    {statistics : Statistics}
    (notSuffixed : ∀ front : List Char, front ≠ [] ->
      naming.factory.toList ≠ front ++ naming.suffix.toList)
    (two : ∀ errorCall ∈ losingCalls naming program, errorCall.call.arguments.length = 2)
    (completes : Setup.run { naming, replacement := none } source program =
      (.completed table issues statistics, left)) :
    Setup.run { naming, replacement := none } source left =
      (.completed .empty issues { statistics with
          calls := statistics.wrapped
          stripped := 0
          duplicates := 0 }, left) := by
  let setup : Setup := { naming, replacement := none }
  have folded : ∀ errorCall ∈ errorCalls setup.naming program, errorCall.folded? ≠ none :=
    folded_of_completed completes
  have leaves : left = programWithoutMessagesAt (removed false (events naming program)) program :=
    (congrArg Prod.snd completes).symm.trans
      (program_runOn naming (setup.sources source) program)
  have completed := (runOn_of_folded setup folded (setup.sources source)).symm.trans completes
  calc setup.run source left
      = setup.complete (setup.sources source) left
          (progressOf naming (setup.sources source) program).withoutTemplates :=
        runOn_left notSuffixed (passNothing_events folded two) leaves (setup.sources source)
    _ = (.completed .empty issues statistics.withoutStripped, left) :=
        complete_withoutTemplates completed left

/-- A program with a call that is wrapped and thrown, among whose other arguments a call loses
its message, and with two declarations of the factory. -/
def sampleToRepeat : Program :=
  let span := Span.between 0 0
  let maker := Node.identifier span "fooError"
  let inner := Node.call span maker [sampleString "bad", sampleString "Bad"]
  let wrapped := Node.call span maker [sampleString "odd", sampleString "Odd", inner]
  let signature : Signature :=
    { name := "minErr", nameSpan := span, header := { isAsync := false, isGenerator := false } }
  let definition := Node.function span signature [] (.other span .block [])
  { isModule := false
    interpreter := none
    items :=
      [.throwing span (.construct span (.identifier span "Error") [wrapped]), definition,
        definition]
    finish := 0 }

/-- The first run on the sample removes a message, and the second one only warns again. -/
theorem run_again_sample :
    ∃ table issues statistics left again,
      sampleSetup.run sampleSource sampleToRepeat = (.completed table issues statistics, left) ∧
        statistics.stripped = 1 ∧ issues.length = 2 ∧ again.stripped = 0 ∧
        sampleSetup.run sampleSource left = (.completed .empty issues again, left) := by
  obtain ⟨table, issues, statistics, left, completes, stripped_eq, length_eq⟩ :
      ∃ table issues statistics left, sampleSetup.run sampleSource sampleToRepeat =
          (.completed table issues statistics, left) ∧
        statistics.stripped = 1 ∧ issues.length = 2 :=
    ⟨_, _, _, _, rfl, rfl, rfl⟩
  have two : ∀ errorCall ∈ losingCalls sampleNaming sampleToRepeat,
      errorCall.call.arguments.length = 2 := by
    decide
  have notSuffixed : ∀ front : List Char, front ≠ [] ->
      sampleNaming.factory.toList ≠ front ++ sampleNaming.suffix.toList := by
    intro front _ factory_eq
    have isSuffix : sampleNaming.suffix.toList <:+ sampleNaming.factory.toList :=
      ⟨front, factory_eq.symm⟩
    exact absurd isSuffix (by decide)
  exact ⟨table, issues, statistics, left, _, completes, stripped_eq, length_eq, rfl,
    run_again notSuffixed two completes⟩

end Extraction
end ErrorTemplates
