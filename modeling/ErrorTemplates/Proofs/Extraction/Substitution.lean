import ErrorTemplates.Proofs.Extraction.KeptDeclarations
import ErrorTemplates.Proofs.Extraction.Locating

/-!
# What a replacement changes

A run that is given a replacement for the definition of the factory differs from the run
without one in that definition and in nothing else: both are aborted alike, or both have the
same table, the same warnings and the same counts.
-/

namespace ErrorTemplates
namespace Extraction

open Diagnostic
open Program

/-! ## Declarations of the factory -/

/-- Where the name of a function declaration stands. -/
def declaredSpan? : Node -> Option Span
  | .function _ signature _ _ => some signature.nameSpan
  | _ => none

/-- The declarations in the events of a program are its declarations of the factory. -/
theorem filterMap_nameSpan?_events (naming : Naming) (program : Program) :
    (events naming program).filterMap Event.nameSpan? =
      (declarations naming.factory program).filterMap fun occurrence =>
        declaredSpan? occurrence.node := by
  rw [events, declarations, declarationsFrom, List.filterMap_filter, List.filterMap_filterMap,
    ← Program.occurrences]
  refine List.filterMap_congr fun occurrence _ => ?_
  obtain ⟨address, node⟩ := occurrence
  cases node with
  | call span callee arguments =>
      cases recognised : naming.match? callee arguments <;>
        simp [eventAt?, recognised, Event.nameSpan?, declares]
  | function span signature parameters body =>
      by_cases isFactory : signature.name = naming.factory <;>
        simp [eventAt?, isFactory, Event.nameSpan?, declares, declaredSpan?]
  | _ => rfl

/-- The names of all declarations of the factory are recorded in order. -/
theorem map_declaredSpan?_declarations
    {naming : Naming}
    {program : Program}
    (folded : ∀ errorCall ∈ errorCalls naming program, errorCall.folded? ≠ none)
    (sources : Sources) :
    ((declarations naming.factory program).map fun occurrence =>
      declaredSpan? occurrence.node) =
        (progressOf naming sources program).sites.spans.map some := by
  rw [progressOf, sites_foldl_apply (harmless_events folded), filterMap_nameSpan?_events]
  refine map_eq_map_some_filterMap fun occurrence present => ?_
  obtain ⟨_, isDeclared⟩ := (mem_declarations_iff _ _ _).mp present
  cases isNode : occurrence.node <;> simp [isNode, declares, declaredSpan?] at isDeclared ⊢

/-! ## Completing a run -/

section
variable {progress : Progress} (naming : Naming) (sources : Sources) (program : Program)

/-- Without declarations nothing is replaced. -/
theorem complete_of_no_declaration
    (noSpans : progress.sites.spans = [])
    (replacement : Option Replacement) :
    Setup.complete { naming, replacement } sources program progress =
      (.completed progress.table progress.issues (Setup.counted progress), program) := by
  simp [Setup.complete, Sites.plan, noSpans]

/-- The only declaration is replaced by a replacement. -/
theorem complete_of_one_declaration
    {span : Span}
    (oneSpan : progress.sites.spans = [span])
    {only : Occurrence}
    (single : declarations naming.factory program = [only])
    (replacement : Replacement) :
    Setup.complete { naming, replacement := some replacement } sources program progress =
      (.completed progress.table progress.issues
          { Setup.counted progress with substituted := true },
        program.replaceAt only.address replacement.declaration.toNode) := by
  simp [Setup.complete, Sites.plan, oneSpan, spliceProgram_eq_replaceAt single,
    spliceCountAll_items_pos single]

/-- Without a replacement the only declaration stays. -/
theorem complete_of_one_declaration_of_none
    {span : Span}
    (oneSpan : progress.sites.spans = [span]) :
    Setup.complete { naming, replacement := none } sources program progress =
      (.completed progress.table progress.issues (Setup.counted progress), program) := by
  simp [Setup.complete, Sites.plan, oneSpan]

/-- Several declarations all stay, and a warning names the second one. -/
theorem complete_of_several_declarations
    {first second : Span}
    {others : List Span}
    (severalSpans : progress.sites.spans = first :: second :: others)
    (replacement : Option Replacement) :
    Setup.complete { naming, replacement } sources program progress =
      (.completed progress.table
          (progress.issues ++
            [.ambiguous (sources.locate second) naming.factory progress.sites.size])
          (Setup.counted progress),
        program) := by
  simp [Setup.complete, Sites.plan, Sites.size, severalSpans]

end

/-! ## Two runs -/

/-- The results of two runs over a program, the second one with a replacement, differ in the
definition of the factory and in nothing else. -/
def DifferInDefinition
    (naming : Naming)
    (sources : Sources)
    (replacement : Declaration)
    (program : Program)
    (first second : Outcome × Program) : Prop :=
  let declared := declarations naming.factory program
  let warnings := (wrappedCalls naming program).filterMap (ErrorCall.warning? · sources)
  (∃ error issues left,
    first = (.aborted error issues, left) ∧ second = (.aborted error issues, left)) ∨
  ∃ table issues statistics left changed,
    first = (.completed table issues statistics, left) ∧
    second =
      (.completed table issues
        { statistics with substituted := decide (declared.length = 1) }, changed) ∧
    statistics.definitions = declared.length ∧
    statistics.substituted = false ∧
    (declared.length = 1 ->
      ∃ only moved, declared = [only] ∧ declarations naming.factory left = [moved] ∧
        (losesMessageAt naming program).shift? only.address = some moved.address ∧
        changed = left.replaceAt moved.address replacement.toNode) ∧
    (declared.length ≠ 1 -> changed = left) ∧
    (declared.length ≤ 1 -> issues = warnings) ∧
    (2 ≤ declared.length ->
      ∃ another span, declared[1]? = some another ∧ declaredSpan? another.node = some span ∧
        issues = warnings ++
          [.ambiguous (sources.locate span) naming.factory declared.length])

section
variable {naming : Naming} {sources : Sources} {program : Program}
variable (folded : ∀ errorCall ∈ errorCalls naming program, errorCall.folded? ≠ none)
include folded

theorem length_declarations (sources : Sources) :
    (declarations naming.factory program).length =
      (progressOf naming sources program).sites.size := by
  simpa [Sites.size] using congrArg List.length (map_declaredSpan?_declarations folded sources)

/-- Nothing is replaced by a visit itself. -/
theorem counted_progressOf (sources : Sources) :
    { Setup.counted (progressOf naming sources program) with substituted := false } =
      Setup.counted (progressOf naming sources program) := by
  have notSubstituted : (progressOf naming sources program).statistics.substituted = false :=
    substituted_foldl_apply (harmless_events folded)
  rw [← notSubstituted]
  rfl

/-- Without declarations two runs have the same result. -/
theorem differInDefinition_of_no_declaration
    (noSpans : (progressOf naming sources program).sites.spans = [])
    (replacement : Replacement) :
    DifferInDefinition naming sources replacement.declaration program
      (Setup.complete { naming, replacement := none } sources (strip naming program)
        (progressOf naming sources program))
      (Setup.complete { naming, replacement := some replacement } sources
        (strip naming program) (progressOf naming sources program)) := by
  have length_eq := length_declarations folded sources
  have noneDeclared : (declarations naming.factory program).length = 0 := by
    rw [length_eq, Sites.size, noSpans, List.length_nil]
  rw [complete_of_no_declaration naming sources _ noSpans,
    complete_of_no_declaration naming sources _ noSpans]
  refine .inr ⟨_, _, _, _, _, rfl, ?_, length_eq.symm,
    substituted_foldl_apply (harmless_events folded), ?_, fun _ => rfl,
    fun _ => issues_progressOf folded sources, ?_⟩
  · rw [noneDeclared, decide_eq_false Nat.zero_ne_one, counted_progressOf folded]
  · intro oneDeclared
    omega
  · intro severalDeclared
    omega

/-- With one declaration the second run replaces it. -/
theorem differInDefinition_of_one_declaration
    {span : Span}
    (oneSpan : (progressOf naming sources program).sites.spans = [span])
    (replacement : Replacement) :
    DifferInDefinition naming sources replacement.declaration program
      (Setup.complete { naming, replacement := none } sources (strip naming program)
        (progressOf naming sources program))
      (Setup.complete { naming, replacement := some replacement } sources
        (strip naming program) (progressOf naming sources program)) := by
  have length_eq := length_declarations folded sources
  have oneDeclared : (declarations naming.factory program).length = 1 := by
    rw [length_eq, Sites.size, oneSpan, List.length_singleton]
  obtain ⟨only, single⟩ := List.length_eq_one_iff.mp oneDeclared
  obtain ⟨moved, movedOnly, shifted⟩ := exists_declarations_strip_eq_singleton folded single
  rw [complete_of_one_declaration_of_none naming sources _ oneSpan,
    complete_of_one_declaration naming sources _ oneSpan movedOnly]
  refine .inr ⟨_, _, _, _, _, rfl, ?_, length_eq.symm,
    substituted_foldl_apply (harmless_events folded),
    fun _ => ⟨only, moved, single, movedOnly, shifted, rfl⟩, ?_,
    fun _ => issues_progressOf folded sources, ?_⟩
  · rw [oneDeclared, decide_eq_true rfl]
  · intro notOne
    exact absurd oneDeclared notOne
  · intro severalDeclared
    omega

/-- With several declarations two runs have the same result and the same warning. -/
theorem differInDefinition_of_several_declarations
    {first second : Span}
    {others : List Span}
    (severalSpans : (progressOf naming sources program).sites.spans = first :: second :: others)
    (replacement : Replacement) :
    DifferInDefinition naming sources replacement.declaration program
      (Setup.complete { naming, replacement := none } sources (strip naming program)
        (progressOf naming sources program))
      (Setup.complete { naming, replacement := some replacement } sources
        (strip naming program) (progressOf naming sources program)) := by
  have length_eq := length_declarations folded sources
  have severalDeclared : 2 ≤ (declarations naming.factory program).length := by
    rw [length_eq, Sites.size, severalSpans, List.length_cons, List.length_cons]
    omega
  have atSecond := congrArg (·[1]?) (map_declaredSpan?_declarations folded sources)
  simp only [severalSpans, List.getElem?_map] at atSecond
  obtain ⟨another, isSecond, span_eq⟩ := Option.map_eq_some_iff.mp atSecond
  rw [complete_of_several_declarations naming sources _ severalSpans,
    complete_of_several_declarations naming sources _ severalSpans]
  refine .inr ⟨_, _, _, _, _, rfl, ?_, length_eq.symm,
    substituted_foldl_apply (harmless_events folded), ?_, fun _ => rfl, ?_,
    fun _ => ⟨another, second, isSecond, span_eq, ?_⟩⟩
  · rw [decide_eq_false (by omega), counted_progressOf folded]
  · intro oneDeclared
    omega
  · intro atMostOne
    omega
  · rw [issues_progressOf folded, length_eq]

end

/-- A replacement influences nothing but the definition of the factory when both runs know
the same texts. -/
theorem differInDefinition_runOn
    (naming : Naming)
    (sources : Sources)
    (replacement : Replacement)
    (program : Program) :
    DifferInDefinition naming sources replacement.declaration program
      (Setup.runOn { naming, replacement := none } sources program)
      (Setup.runOn { naming, replacement := some replacement } sources program) := by
  by_cases offends : ∃ errorCall ∈ errorCalls naming program, errorCall.folded? = none
  · obtain ⟨before, offender, after, calls_eq, folded, notFolded⟩ :=
      exists_first_not_folded offends
    rw [runOn_of_not_folded { naming, replacement := none } calls_eq folded notFolded,
      runOn_of_not_folded { naming, replacement := some replacement } calls_eq folded notFolded]
    exact .inl ⟨_, _, _, rfl, rfl⟩
  · have folded : ∀ errorCall ∈ errorCalls naming program, errorCall.folded? ≠ none :=
      fun errorCall present notFolded => offends ⟨errorCall, present, notFolded⟩
    rw [runOn_of_folded { naming, replacement := none } folded,
      runOn_of_folded { naming, replacement := some replacement } folded]
    rcases spans : (progressOf naming sources program).sites.spans with
      _ | ⟨only, _ | ⟨second, others⟩⟩
    · exact differInDefinition_of_no_declaration folded spans replacement
    · exact differInDefinition_of_one_declaration folded spans replacement
    · exact differInDefinition_of_several_declarations folded spans replacement

/-- A replacement influences nothing but the definition of the factory, over any texts that
both runs know, and over the own texts of the runs if all spans of the program belong to the
text of the program. -/
theorem replacement_only_changes_definition
    (naming : Naming)
    (replacement : Replacement)
    (program : Program) :
    (∀ sources, DifferInDefinition naming sources replacement.declaration program
      (Setup.runOn { naming, replacement := none } sources program)
      (Setup.runOn { naming, replacement := some replacement } sources program)) ∧
    (SpansOwn program -> ∀ source,
      DifferInDefinition naming
        (Setup.sources { naming, replacement := some replacement } source)
        replacement.declaration program
        (Setup.run { naming, replacement := none } source program)
        (Setup.run { naming, replacement := some replacement } source program)) := by
  refine ⟨fun sources => differInDefinition_runOn naming sources replacement program, ?_⟩
  intro own source
  let known := Setup.sources { naming, replacement := some replacement } source
  have alike : LocateAlike (Setup.sources { naming, replacement := none } source) known program :=
    locateAlike_of_spansOwn own rfl
  rw [Setup.run, Setup.run, runOn_eq_of_locateAlike alike]
  exact differInDefinition_runOn naming known replacement program

/-- The sample with the declaration of another factory. -/
theorem replacement_only_changes_definition_sample :
    let span : Span := { origin := .replacement, start := 0, stop := 0 }
    let signature : Signature :=
      { name := "minErr"
        nameSpan := span
        header := { isAsync := false, isGenerator := false } }
    let replacement : Replacement :=
      { declaration :=
          { span, signature, parameters := [], body := .other span .block [] }
        text := [] }
    SpansOwn sampleProgram ∧
      (declarations sampleNaming.factory sampleProgram).length = 1 ∧
      DifferInDefinition sampleNaming
        (Setup.sources { naming := sampleNaming, replacement := some replacement } sampleSource)
        replacement.declaration sampleProgram
        (Setup.run { naming := sampleNaming, replacement := none } sampleSource sampleProgram)
        (Setup.run { naming := sampleNaming, replacement := some replacement } sampleSource
          sampleProgram) := by
  intro span signature replacement
  refine ⟨by decide, by decide, ?_⟩
  exact (replacement_only_changes_definition sampleNaming replacement sampleProgram).2
    (by decide) sampleSource

end Extraction
end ErrorTemplates
