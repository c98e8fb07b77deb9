import ErrorTemplates.Proofs.Extraction.Outcome

/-!
# Which texts a run knows

A run looks at its texts only to locate the spans of the program. Two runs over a program
whose spans all belong to its own text therefore agree, whatever other text they know.
-/

namespace ErrorTemplates
namespace Program

/-- The spans of a node: its own and, if it is a function declaration, that of the name. -/
def Node.spans : Node -> List Span
  | .function span signature _ _ => [span, signature.nameSpan]
  | node => [node.span]

theorem Node.span_mem_spans (node : Node) : node.span ∈ node.spans := by
  cases node <;> simp [Node.span, Node.spans]

/-- All spans of a program belong to its own text. -/
def SpansOwn (program : Program) : Prop :=
  ∀ occurrence ∈ program.occurrences, ∀ span ∈ occurrence.node.spans, span.origin = .program

instance (program : Program) : Decidable (SpansOwn program) :=
  inferInstanceAs (Decidable (∀ occurrence ∈ program.occurrences,
    ∀ span ∈ occurrence.node.spans, span.origin = .program))

/-- A child of a node that occurs in a program occurs there too. -/
theorem exists_mem_occurrences_of_child
    {program : Program}
    {occurrence : Occurrence}
    {child : Node}
    (present : occurrence ∈ program.occurrences)
    (isChild : child ∈ occurrence.node.children) :
    ∃ below ∈ program.occurrences, below.node = child := by
  obtain ⟨index, found⟩ := List.mem_iff_getElem?.mp isChild
  refine ⟨{ address := occurrence.address ++ [index], node := child }, ?_, rfl⟩
  rw [Program.mem_occurrences_iff] at present ⊢
  rw [Program.subtree?_append_of_some present, Node.subtree?_cons, subtreeAmong?_eq_some_iff]
  exact ⟨child, found, rfl⟩

end Program

namespace Extraction

open Diagnostic
open Program

/-- Two collections of texts locate all spans of a program alike. -/
def LocateAlike (first second : Sources) (program : Program) : Prop :=
  ∀ occurrence ∈ program.occurrences, ∀ span ∈ occurrence.node.spans,
    first.locate span = second.locate span

/-- The own text of a program is enough to locate its spans. -/
theorem locateAlike_of_spansOwn
    {first second : Sources}
    {program : Program}
    (own : SpansOwn program)
    (sameProgram : first.program = second.program) : LocateAlike first second program := by
  intro occurrence present span isSpan
  simp only [Sources.locate, own occurrence present span isSpan, sameProgram]

section
variable {naming : Naming} {first second : Sources} {program : Program}
variable (alike : LocateAlike first second program)
include alike

/-- An event of a program adds the same to the progress. -/
theorem apply_eq_of_locateAlike
    {event : Event}
    (isEvent : event ∈ events naming program)
    (progress : Progress) :
    Event.apply first progress event = Event.apply second progress event := by
  obtain ⟨⟨address, node⟩, present, event_eq⟩ := List.mem_filterMap.mp isEvent
  cases node with
  | call span callee arguments =>
      obtain ⟨found, recognised, rfl⟩ := Option.map_eq_some_iff.mp event_eq
      obtain ⟨_, rfl, _⟩ := (naming.match?_eq_some_iff _ _ _).mp recognised
      have childLocated (child : Node)
          (isChild : child ∈ callee :: found.code :: found.message :: found.trailing) :
          first.locate child.span = second.locate child.span := by
        obtain ⟨below, isBelow, rfl⟩ := exists_mem_occurrences_of_child present isChild
        exact alike below isBelow _ (Node.span_mem_spans _)
      have callLocated : first.locate span = second.locate span :=
        alike _ present span (List.mem_singleton.mpr rfl)
      have codeLocated := childLocated found.code (by simp)
      have messageLocated := childLocated found.message (by simp)
      simp only [Event.apply, judge, callLocated, codeLocated, messageLocated]
  | function span signature parameters body =>
      simp only [eventAt?] at event_eq
      split at event_eq
      · obtain rfl := Option.some.inj event_eq
        rfl
      · simp at event_eq
  | _ => simp [eventAt?] at event_eq

theorem progressOf_eq_of_locateAlike :
    progressOf naming first program = progressOf naming second program :=
  List.foldl_ext _ _ _ fun progress _ isEvent => apply_eq_of_locateAlike alike isEvent progress

end

/-- A call that makes an error adds no declaration. -/
theorem sites_apply_makes
    (sources : Sources)
    (progress : Progress)
    (errorCall : ErrorCall)
    (isThrown : Bool) :
    (Event.apply sources progress (.makes errorCall isThrown)).sites = progress.sites := by
  cases running : progress.isStopped with
  | true => rw [Event.apply_of_isStopped running]
  | false =>
      rw [Event.apply_makes running]
      cases errorCall.folded? <;> cases isThrown <;> rfl

/-- Every recorded declaration is one of the events. -/
theorem exists_declares_of_mem_spans
    {sources : Sources}
    {events : List Event}
    {progress : Progress}
    {span : Span}
    (recorded : span ∈ (events.foldl (Event.apply sources) progress).sites.spans) :
    span ∈ progress.sites.spans ∨ ∃ address, .declares address span ∈ events := by
  induction events generalizing progress with
  | nil => exact .inl recorded
  | cons event rest inductionHypothesis =>
      rcases inductionHypothesis recorded with before | ⟨address, later⟩
      · cases event with
        | makes errorCall isThrown =>
            rw [sites_apply_makes] at before
            exact .inl before
        | declares address nameSpan =>
            cases running : progress.isStopped with
            | true =>
                rw [Event.apply_of_isStopped running] at before
                exact .inl before
            | false =>
                rw [Event.apply_declares running] at before
                rcases List.mem_append.mp before with earlier | isNew
                · exact .inl earlier
                · obtain rfl := List.mem_singleton.mp isNew
                  exact .inr ⟨address, List.mem_cons_self⟩
      · exact .inr ⟨address, List.mem_cons_of_mem _ later⟩

/-- The name of a declaration in the events of a program is one of its spans. -/
theorem exists_mem_spans_of_declares
    {naming : Naming}
    {program : Program}
    {address : Address}
    {span : Span}
    (isEvent : .declares address span ∈ events naming program) :
    ∃ occurrence ∈ program.occurrences, span ∈ occurrence.node.spans := by
  obtain ⟨⟨address, node⟩, present, event_eq⟩ := List.mem_filterMap.mp isEvent
  refine ⟨_, present, ?_⟩
  cases node with
  | call span callee arguments =>
      obtain ⟨_, _, other⟩ := Option.map_eq_some_iff.mp event_eq
      cases other
  | function own signature parameters body =>
      simp only [eventAt?] at event_eq
      split at event_eq
      · obtain ⟨_, rfl⟩ := Event.declares.inj (Option.some.inj event_eq)
        simp [Node.spans]
      · simp at event_eq
  | _ => simp [eventAt?] at event_eq

/-- Only the spans of declarations are located when a run is completed. -/
theorem complete_eq_of_locate_eq
    {first second : Sources}
    {progress : Progress}
    (located : ∀ span ∈ progress.sites.spans, first.locate span = second.locate span)
    (setup : Setup)
    (program : Program) :
    setup.complete first program progress = setup.complete second program progress := by
  rcases spans : progress.sites.spans with _ | ⟨only, _ | ⟨span, others⟩⟩
  · simp [Setup.complete, Sites.plan, spans]
  · cases replaced : setup.replacement <;> simp [Setup.complete, Sites.plan, spans, replaced]
  · have spanLocated := located span (by simp [spans])
    simp [Setup.complete, Sites.plan, spans, spanLocated]

/-- Runs that locate the spans of a program alike have the same result. -/
theorem runOn_eq_of_locateAlike
    {first second : Sources}
    {program : Program}
    (alike : LocateAlike first second program)
    (setup : Setup) : setup.runOn first program = setup.runOn second program := by
  have located : ∀ span ∈ (progressOf setup.naming second program).sites.spans,
      first.locate span = second.locate span := by
    intro span recorded
    rcases exists_declares_of_mem_spans recorded with atStart | ⟨address, isEvent⟩
    · simp [Progress.start, Sites.none] at atStart
    · obtain ⟨occurrence, present, isSpan⟩ := exists_mem_spans_of_declares isEvent
      exact alike occurrence present span isSpan
  simp only [runOn_eq, progressOf_eq_of_locateAlike alike, complete_eq_of_locate_eq located]

end Extraction
end ErrorTemplates
