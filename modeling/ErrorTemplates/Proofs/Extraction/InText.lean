import ErrorTemplates.Proofs.Extraction.Reordering
import ErrorTemplates.Proofs.Extraction.TextOrder
import ErrorTemplates.Proofs.Parse.Programs

/-!
# What a completed run takes from the order of the text

The first call of a name space, the last call of a pair and the second declaration of the
factory are the first, the last and the second one in the text, unless the text turns around
two of them that matter.
-/

namespace ErrorTemplates
namespace Extraction

open Diagnostic
open Program

/-- The calls that lose their messages, in the order of the text. -/
def losingCallsInText (naming : Naming) (program : Program) : List ErrorCall :=
  sortedByStart (·.call.span.start) (losingCalls naming program)

/-- The name spaces, codes and messages of the calls that lose their messages, in the order
of the text. -/
def templatesInText (naming : Naming) (program : Program) : List Entry :=
  (losingCallsInText naming program).filterMap ErrorCall.folded?

/-- The declarations of a name in a program, in the order of the text. -/
def declarationsInText (name : String) (program : Program) : List Occurrence :=
  sortedByStart (·.node.span.start) (declarations name program)

/-- The text turns around no two calls that lose their messages and whose entries are related
in some way. -/
def Unturned (naming : Naming) (program : Program) (related : Entry -> Entry -> Prop) : Prop :=
  ∀ earlier ∈ losingCalls naming program, ∀ later ∈ losingCalls naming program,
    ∀ entry ∈ earlier.folded?, ∀ laterEntry ∈ later.folded?,
      related entry laterEntry -> program.turns earlier.address later.address = false

instance
    (naming : Naming)
    (program : Program)
    (related : Entry -> Entry -> Prop)
    [DecidableRel related] : Decidable (Unturned naming program related) :=
  inferInstanceAs (Decidable (∀ earlier ∈ losingCalls naming program,
    ∀ later ∈ losingCalls naming program,
      ∀ entry ∈ earlier.folded?, ∀ laterEntry ∈ later.folded?,
        related entry laterEntry -> program.turns earlier.address later.address = false))

/-! ## Entries in the order of the text -/

section
variable {naming : Naming} {program : Program} {origin : Origin} {first last : Nat}
variable (standsInOrder : InTextOrder origin first program.items last)
include standsInOrder

theorem pairwise_losingCalls_beginInOrder :
    (losingCalls naming program).Pairwise fun earlier later =>
      BeginInOrder program earlier.address later.address earlier.call.span.start
        later.call.span.start :=
  (pairwise_errorCalls_beginInOrder standsInOrder).filter _

theorem pairwise_losingCallsInText :
    (losingCallsInText naming program).Pairwise fun earlier later =>
      earlier.call.span.start < later.call.span.start :=
  pairwise_sortedByStart
    ((pairwise_losingCalls_beginInOrder standsInOrder).imp BeginInOrder.start_ne)

variable {entry : ErrorCall -> Entry}
variable (folded : ∀ errorCall ∈ losingCalls naming program,
  errorCall.folded? = some (entry errorCall))
include folded

omit standsInOrder in
theorem templates_eq_map :
    templates naming program = (losingCalls naming program).map entry := by
  rw [templates, List.filterMap_congr folded, List.filterMap_eq_map']

omit standsInOrder in
theorem templatesInText_eq_map :
    templatesInText naming program =
      (losingCallsInText naming program).map entry := by
  have foldedInText : ∀ errorCall ∈ losingCallsInText naming program,
      errorCall.folded? = some (entry errorCall) := fun errorCall present =>
    folded errorCall ((perm_sortedByStart _ _).mem_iff.mp present)
  rw [templatesInText, List.filterMap_congr foldedInText, List.filterMap_eq_map']

/-- Related calls begin in the order of the visit if the text does not turn them around. -/
theorem pairwise_start_of_unturned
    {related : Entry -> Entry -> Prop}
    (unturned : Unturned naming program related) :
    (losingCalls naming program).Pairwise fun earlier later =>
      related (entry earlier) (entry later) ->
        earlier.call.span.start < later.call.span.start := by
  refine (pairwise_losingCalls_beginInOrder standsInOrder).imp_of_mem ?_
  intro earlier later isEarlier isLater inOrder areRelated
  exact inOrder.start_lt (unturned earlier isEarlier later isLater (entry earlier)
    (folded earlier isEarlier) (entry later) (folded later isLater) areRelated)

/-- Name spaces occur in the text in the order of the visit. -/
theorem eraseDups_space_templatesInText
    (unturned : Unturned naming program fun one other => one.space ≠ other.space) :
    ((templatesInText naming program).map Entry.space).eraseDups =
      ((templates naming program).map Entry.space).eraseDups := by
  rw [templatesInText_eq_map folded, templates_eq_map folded, List.map_map, List.map_map]
  exact eraseDups_map_eq_of_sorted (perm_sortedByStart _ _)
    (pairwise_losingCallsInText standsInOrder)
    (pairwise_start_of_unturned standsInOrder folded unturned)

/-- The codes of a name space occur in the text in the order of the visit. -/
theorem eraseDups_code_templatesInText
    (name : String)
    (unturned : Unturned naming program fun one other =>
      one.space = name ∧ other.space = name ∧ one.code ≠ other.code) :
    (((templatesInText naming program).filter fun entry =>
        entry.space == name).map Entry.code).eraseDups =
      (((templates naming program).filter fun entry =>
        entry.space == name).map Entry.code).eraseDups := by
  rw [templatesInText_eq_map folded, templates_eq_map folded, List.filter_map, List.filter_map,
    List.map_map, List.map_map]
  refine eraseDups_map_eq_of_sorted ((perm_sortedByStart _ _).filter _)
    ((pairwise_losingCallsInText standsInOrder).filter _) ?_
  refine ((pairwise_start_of_unturned standsInOrder folded unturned).filter _).imp_of_mem ?_
  intro earlier later isEarlier isLater inOrder differ
  refine inOrder ⟨?_, ?_, differ⟩
  · simpa using (List.mem_filter.mp isEarlier).2
  · simpa using (List.mem_filter.mp isLater).2

/-- The last template of a pair in the text is the last one in the visit. -/
theorem find?_template_templatesInText
    (space code : String)
    (unturned : Unturned naming program fun one other =>
      (one.space = space ∧ one.code = code) ∧ (other.space = space ∧ other.code = code) ∧
        one.template ≠ other.template) :
    (((templatesInText naming program).reverse.find? fun entry =>
        entry.space == space && entry.code == code).map Entry.template) =
      ((templates naming program).reverse.find? fun entry =>
        entry.space == space && entry.code == code).map Entry.template := by
  rw [templatesInText_eq_map folded, templates_eq_map folded, ← List.map_reverse,
    ← List.map_reverse, List.find?_map, List.find?_map, Option.map_map, Option.map_map]
  refine find?_reverse_map_eq_of_sorted (perm_sortedByStart _ _)
    (pairwise_losingCallsInText standsInOrder) ?_
  refine (pairwise_start_of_unturned standsInOrder folded unturned).imp ?_
  intro earlier later inOrder isPair isPairToo differ
  exact inOrder ⟨by simpa using isPair, by simpa using isPairToo, differ⟩

end

/-! ## Declarations in the order of the text -/

/-- The warning of several declarations names the second one in the text. -/
theorem issues_of_several_declarationsInText
    {setup : Setup}
    {source : Source}
    {program left : Program}
    {table : Table}
    {issues : List Issue}
    {statistics : Statistics}
    {first last : Nat}
    (standsInOrder : InTextOrder .program first program.items last)
    (completes : setup.run source program = (.completed table issues statistics, left))
    (several : 2 ≤ (declarationsInText setup.naming.factory program).length)
    (unturned : ∀ earlier ∈ declarations setup.naming.factory program,
      ∀ later ∈ declarations setup.naming.factory program,
        program.turns earlier.address later.address = false) :
    ∃ second span,
      (declarationsInText setup.naming.factory program)[1]? = some second ∧
        declaredSpan? second.node = some span ∧
        issues =
          (wrappedCalls setup.naming program).filterMap
              (ErrorCall.warning? · (setup.sources source)) ++
            [.ambiguous (source.locate span.start) setup.naming.factory
              (declarationsInText setup.naming.factory program).length] := by
  have inVisit : declarationsInText setup.naming.factory program =
      declarations setup.naming.factory program := by
    refine sortedByStart_eq_self ((pairwise_declarations_beginInOrder standsInOrder).imp_of_mem ?_)
    intro earlier later isEarlier isLater inOrder
    exact inOrder.start_lt (unturned earlier isEarlier later isLater)
  rw [inVisit] at several ⊢
  obtain ⟨naming, replacement⟩ := setup
  let sources := Setup.sources { naming, replacement } source
  have folded := folded_of_completed completes
  have length_eq := length_declarations folded sources
  obtain ⟨first, second, others, severalSpans⟩ : ∃ first second others,
      (progressOf naming sources program).sites.spans = first :: second :: others := by
    rw [length_eq, Sites.size] at several
    rcases spans : (progressOf naming sources program).sites.spans with
      _ | ⟨first, _ | ⟨second, others⟩⟩
    · simp [spans] at several
    · simp [spans] at several
    · exact ⟨first, second, others, rfl⟩
  rw [Setup.run, runOn_of_folded _ folded,
    complete_of_several_declarations naming _ _ severalSpans] at completes
  obtain ⟨outcome_eq, _⟩ := Prod.mk.inj completes
  obtain ⟨_, issues_eq, _⟩ := Outcome.completed.inj outcome_eq
  have atSecond := congrArg (·[1]?) (map_declaredSpan?_declarations folded sources)
  simp only [severalSpans, List.getElem?_map] at atSecond
  obtain ⟨another, isSecond, span_eq⟩ := Option.map_eq_some_iff.mp atSecond
  obtain ⟨present, _⟩ := List.mem_filter.mp (List.mem_of_getElem? isSecond)
  have located : sources.locate second = source.locate second.start := by
    rw [Sources.locate, origin_of_declaredSpan? standsInOrder present span_eq]
    rfl
  refine ⟨another, second, isSecond, span_eq, ?_⟩
  rw [← issues_eq, issues_progressOf folded, ← length_eq, located]

/-! ## Completed runs -/

theorem parse_text_of_parse
    {source : Source}
    {origin : Origin}
    {parsed : Parsed}
    (parses : source.parse origin = .ok parsed) :
    Program.parse origin source.text = .ok parsed := by
  unfold Source.parse at parses
  split at parses
  · next found isFound => rwa [Except.ok.inj parses] at isFound
  · simp at parses

/-- What the results of a completed run take from the order of the text. -/
structure FollowsText
    (setup : Setup)
    (source : Source)
    (program : Program)
    (table : Table)
    (issues : List Issue) : Prop where
  /-- Sites begin in the order of the visit, except for those that the text turns around. -/
  sites : ∀ earlier ∈ program.occurrences, ∀ later ∈ program.occurrences,
    isSite setup.naming earlier.node = true -> isSite setup.naming later.node = true ->
      earlier.address < later.address ->
        BeginInOrder program earlier.address later.address earlier.node.span.start
          later.node.span.start
  /-- The name spaces stand in the order of their first calls. -/
  spaces : (Unturned setup.naming program fun one other => one.space ≠ other.space) ->
    table.names = ((templatesInText setup.naming program).map Entry.space).eraseDups
  /-- The codes of a name space stand in the order of their first calls. -/
  codes : ∀ space ∈ table.spaces,
    (Unturned setup.naming program fun one other =>
      one.space = space.name ∧ other.space = space.name ∧ one.code ≠ other.code) ->
        space.codes.map Prod.fst =
          (((templatesInText setup.naming program).filter fun entry =>
            entry.space == space.name).map Entry.code).eraseDups
  /-- A pair has the template of its last call. -/
  templates : ∀ space code,
    (Unturned setup.naming program fun one other =>
      (one.space = space ∧ one.code = code) ∧ (other.space = space ∧ other.code = code) ∧
        one.template ≠ other.template) ->
      table.get? space code =
        ((templatesInText setup.naming program).reverse.find? fun entry =>
          entry.space == space && entry.code == code).map Entry.template
  /-- The warning of several declarations names the second one. -/
  declared : 2 ≤ (declarationsInText setup.naming.factory program).length ->
    (∀ earlier ∈ declarations setup.naming.factory program,
      ∀ later ∈ declarations setup.naming.factory program,
        program.turns earlier.address later.address = false) ->
      ∃ second span,
        (declarationsInText setup.naming.factory program)[1]? = some second ∧
          declaredSpan? second.node = some span ∧
          issues =
            (wrappedCalls setup.naming program).filterMap
                (ErrorCall.warning? · (setup.sources source)) ++
              [.ambiguous (source.locate span.start) setup.naming.factory
                (declarationsInText setup.naming.factory program).length]

/-- Every program that stands in text order has results that follow the text. -/
theorem followsText_of_inTextOrder
    {setup : Setup}
    {source : Source}
    {program left : Program}
    {table : Table}
    {issues : List Issue}
    {statistics : Statistics}
    {first last : Nat}
    (standsInOrder : InTextOrder .program first program.items last)
    (completes : setup.run source program = (.completed table issues statistics, left)) :
    FollowsText setup source program table issues := by
  let noEntry : Entry := { space := "", code := "", template := "" }
  have folded : ∀ errorCall ∈ losingCalls setup.naming program,
      errorCall.folded? = some (errorCall.folded?.getD noEntry) := by
    intro errorCall losing
    obtain ⟨entry, isEntry⟩ := Option.ne_none_iff_exists'.mp
      (folded_of_completed completes errorCall (List.mem_filter.mp losing).1)
    rw [isEntry, Option.getD_some]
  have issuesInText := issues_of_several_declarationsInText standsInOrder completes
  obtain rfl := table_of_completed completes
  refine
    { sites := fun earlier isEarlier later isLater earlierSite laterSite before =>
        beginInOrder_of_sites standsInOrder isEarlier isLater before earlierSite laterSite
      spaces := fun unturned => ?_
      codes := fun space present unturned => ?_
      templates := fun space code unturned => ?_
      declared := issuesInText }
  · rw [Table.names_ofEntries, eraseDups_space_templatesInText standsInOrder folded unturned]
  · rw [← Table.codesIn_of_mem (Table.nodup_names_ofEntries _) present,
      Table.map_fst_codesIn_ofEntries,
      eraseDups_code_templatesInText standsInOrder folded space.name unturned]
  · rw [Table.get?_ofEntries,
      find?_template_templatesInText standsInOrder folded space code unturned]

/-- The sites of a program that was read from a text begin in the order of the visit, except
for those that the text turns around. Therefore the name spaces of a completed run stand in
the order of their first calls in the text, and so do the codes of each of them, a pair has the
template of its last call in the text, and the warning of several declarations names the second
one in the text, each if the text turns around none of those that matter for it. -/
theorem completed_run_follows_text
    {setup : Setup}
    {source : Source}
    {parsed : Parsed}
    {left : Program}
    {table : Table}
    {issues : List Issue}
    {statistics : Statistics}
    (parses : source.parse .program = .ok parsed)
    (completes : setup.run source parsed.program = (.completed table issues statistics, left)) :
    FollowsText setup source parsed.program table issues := by
  obtain ⟨first, last, standsInOrder⟩ := inTextOrder_of_parse (parse_text_of_parse parses)
  exact followsText_of_inTextOrder standsInOrder completes

/-! ## A loop -/

/-- A setup with the usual names. -/
def usualSetup : Setup :=
  { naming := { factory := "minErr", suffix := "MinErr" }, replacement := none }

/-- A source with calls for one pair in both parts of a `do` loop and another call after it. -/
def loopSource : Source :=
  .ofText "loop.js" ("do \x7b fooMinErr('a', 'body') \x7d while (fooMinErr('a', 'test')); " ++
    "barMinErr('b', 'other');")

/-- The program of the source with a loop. -/
def loopParsed : Parsed :=
  (loopSource.parse .program).toOption.get (by decide +kernel)

theorem parse_loopSource : loopSource.parse .program = .ok loopParsed := by
  have ok_of_get {result : Except Unreadable Parsed} (isSome : result.toOption.isSome = true) :
      result = .ok (result.toOption.get isSome) := by
    cases result with
    | error failure => simp [Except.toOption] at isSome
    | ok parsed => rfl
  exact ok_of_get _

/-- The run over the source with a loop is completed, the text turns around no calls of
different name spaces, and the template of the body is the one that stays. -/
theorem run_loopSource_evaluates :
    let program := loopParsed.program
    (match (usualSetup.run loopSource program).1 with
      | .completed table _ _ => decide (table.get? "foo" "a" = some "body")
      | .aborted .. => false) = true ∧
    (Unturned usualSetup.naming program fun one other => one.space ≠ other.space) ∧
    templatesInText usualSetup.naming program =
      [{ space := "foo", code := "a", template := "body" },
        { space := "foo", code := "a", template := "test" },
        { space := "bar", code := "b", template := "other" }] := by
  decide +kernel

theorem exists_run_loopSource :
    ∃ table issues statistics left,
      usualSetup.run loopSource loopParsed.program =
          (.completed table issues statistics, left) ∧
        table.get? "foo" "a" = some "body" := by
  obtain ⟨stays, _⟩ := run_loopSource_evaluates
  generalize usualSetup.run loopSource loopParsed.program = result at stays
  obtain ⟨outcome, left⟩ := result
  cases outcome with
  | completed table issues statistics =>
      exact ⟨table, issues, statistics, left, rfl, of_decide_eq_true stays⟩
  | aborted error issues => cases stays

/-- In the source with a loop the name spaces stand in the order of the text. -/
theorem completed_run_follows_text_sample :
    ∃ table issues statistics left,
      loopSource.parse .program = .ok loopParsed ∧
        usualSetup.run loopSource loopParsed.program =
          (.completed table issues statistics, left) ∧
        table.names = ["foo", "bar"] := by
  obtain ⟨table, issues, statistics, left, completes, _⟩ := exists_run_loopSource
  obtain ⟨_, unturned, recorded_eq⟩ := run_loopSource_evaluates
  refine ⟨table, issues, statistics, left, parse_loopSource, completes, ?_⟩
  have follows := completed_run_follows_text parse_loopSource completes
  rw [follows.spaces unturned, recorded_eq]
  rfl

/-- The test of a `do` loop is visited before the body, so the template of the test, which
stands last in the text, does not stay. -/
theorem last_template_in_text_is_lost :
    ∃ table issues statistics left,
      loopSource.parse .program = .ok loopParsed ∧
        usualSetup.run loopSource loopParsed.program =
          (.completed table issues statistics, left) ∧
        ((templatesInText usualSetup.naming loopParsed.program).reverse.find? fun entry =>
          entry.space == "foo" && entry.code == "a").map Entry.template = some "test" ∧
        table.get? "foo" "a" = some "body" := by
  obtain ⟨table, issues, statistics, left, completes, stays⟩ := exists_run_loopSource
  obtain ⟨_, _, recorded_eq⟩ := run_loopSource_evaluates
  refine ⟨table, issues, statistics, left, parse_loopSource, completes, ?_, stays⟩
  rw [recorded_eq]
  rfl

end Extraction
end ErrorTemplates
