import ErrorTemplates.Proofs.Extraction.Outcome

/-!
# What an aborted run leaves

A run is aborted exactly when the code or the message of some call that makes an error is
not constant. The first such call in the order of the visit gives the error. The warnings
and the removed messages are those of the calls before it, and everything else about the
program stays, its definition of the factory too.
-/

namespace ErrorTemplates
namespace Extraction

open Diagnostic
open Program

/-- The code or the message of a call that makes an error is not constant. -/
def ErrorCall.Offends (errorCall : ErrorCall) : Prop :=
  constant? errorCall.found.code = none ∨ constant? errorCall.found.message = none

theorem ErrorCall.offends_iff (errorCall : ErrorCall) :
    errorCall.Offends ↔ errorCall.folded? = none := by
  unfold Offends folded?
  cases constant? errorCall.found.code <;> cases constant? errorCall.found.message <;> simp

/-- The first of some calls that offends, with the calls before it. -/
structure FirstOffender (calls before : List ErrorCall) (offender : ErrorCall) : Prop where
  /-- The calls before the offender and the offender come first. -/
  isPrefix : before ++ [offender] <+: calls
  /-- None of the calls before the offender offends. -/
  innocent : ∀ errorCall ∈ before, ¬ errorCall.Offends
  /-- The offender does. -/
  offends : offender.Offends

theorem exists_firstOffender
    {calls : List ErrorCall}
    (some_offends : ∃ errorCall ∈ calls, errorCall.Offends) :
    ∃ before offender, FirstOffender calls before offender := by
  obtain ⟨errorCall, present, offends⟩ := some_offends
  obtain ⟨before, offender, after, calls_eq, folded, notFolded⟩ :=
    exists_first_not_folded ⟨errorCall, present, (errorCall.offends_iff).mp offends⟩
  refine ⟨before, offender, ⟨⟨after, ?_⟩, ?_, (offender.offends_iff).mpr notFolded⟩⟩
  · rw [calls_eq, List.append_assoc, List.singleton_append]
  · intro earlier isEarlier earlierOffends
    exact folded earlier isEarlier ((earlier.offends_iff).mp earlierOffends)

/-- The error of a call tells its first argument that is not constant. -/
theorem failure_eq (errorCall : ErrorCall) (sources : Sources) :
    errorCall.failure sources =
      match constant? errorCall.found.code with
      | none =>
          .notConstant (sources.locate errorCall.found.code.span) errorCall.found.maker.space
            .code
      | some _ =>
          .notConstant (sources.locate errorCall.found.message.span)
            errorCall.found.maker.space .message := by
  unfold ErrorCall.failure ErrorCall.fault
  cases constant? errorCall.found.code <;> rfl

/-- Calls that do not offend all have their warnings. -/
theorem map_warning?_of_innocent
    {calls : List ErrorCall}
    (innocent : ∀ errorCall ∈ calls, ¬ errorCall.Offends)
    (sources : Sources) :
    calls.map (ErrorCall.warning? · sources) =
      (calls.filterMap (ErrorCall.warning? · sources)).map some := by
  refine map_eq_map_some_filterMap fun errorCall present noWarning => ?_
  exact innocent errorCall present
    ((errorCall.offends_iff).mpr (Option.map_eq_none_iff.mp noWarning))

section
variable {setup : Setup} {source : Source} {program : Program}

/-- The first offender aborts a run, and what comes after it makes no difference. -/
theorem run_of_firstOffender
    {before : List ErrorCall}
    {offender : ErrorCall}
    (first : FirstOffender (errorCalls setup.naming program) before offender) :
    setup.run source program =
      (.aborted (offender.failure (setup.sources source))
          ((before.filter fun errorCall =>
            decide (Wrapped program errorCall.address)).filterMap
              (ErrorCall.warning? · (setup.sources source))),
        programWithoutMessagesAt
          (addressesOf (before.filter fun errorCall =>
            !decide (Wrapped program errorCall.address))) program) := by
  obtain ⟨after, calls_eq⟩ := first.isPrefix
  rw [List.append_assoc, List.singleton_append] at calls_eq
  refine runOn_of_not_folded setup calls_eq.symm ?_ ((offender.offends_iff).mp first.offends) _
  intro errorCall present notFolded
  exact first.innocent errorCall present ((errorCall.offends_iff).mpr notFolded)

/-- A run is only aborted if some call offends. -/
theorem exists_offends_of_aborted
    {error : Issue}
    {issues : List Issue}
    {left : Program}
    (aborted : setup.run source program = (.aborted error issues, left)) :
    ∃ errorCall ∈ errorCalls setup.naming program, errorCall.Offends := by
  by_contra noneOffends
  have folded : ∀ errorCall ∈ errorCalls setup.naming program, errorCall.folded? ≠ none :=
    fun errorCall present notFolded =>
      noneOffends ⟨errorCall, present, (errorCall.offends_iff).mpr notFolded⟩
  have completed := runOn_of_folded setup folded (setup.sources source)
  obtain ⟨_, _, _, complete_eq⟩ := table_complete setup (setup.sources source)
    (strip setup.naming program) (progressOf setup.naming (setup.sources source) program)
  have outcome_eq := aborted.symm.trans (completed.trans complete_eq)
  simp at outcome_eq

end

/-- A run is aborted exactly when some call that makes an error offends, and then all of its
result is that of the calls up to the first offender. -/
theorem run_aborted_iff (setup : Setup) (source : Source) (program : Program) :
    ((∃ error issues left, setup.run source program = (.aborted error issues, left)) ↔
      ∃ errorCall ∈ errorCalls setup.naming program, errorCall.Offends) ∧
    ∀ error issues left, setup.run source program = (.aborted error issues, left) ->
      ∃ before offender, FirstOffender (errorCalls setup.naming program) before offender ∧
        (error =
          match constant? offender.found.code with
          | none =>
              .notConstant ((setup.sources source).locate offender.found.code.span)
                offender.found.maker.space .code
          | some _ =>
              .notConstant ((setup.sources source).locate offender.found.message.span)
                offender.found.maker.space .message) ∧
        (before.filter fun errorCall => decide (Wrapped program errorCall.address)).map
            (ErrorCall.warning? · (setup.sources source)) = issues.map some ∧
        left = programWithoutMessagesAt
          (addressesOf (before.filter fun errorCall =>
            !decide (Wrapped program errorCall.address))) program := by
  refine ⟨⟨?_, ?_⟩, ?_⟩
  · rintro ⟨error, issues, left, aborted⟩
    exact exists_offends_of_aborted aborted
  · intro some_offends
    obtain ⟨before, offender, first⟩ := exists_firstOffender some_offends
    exact ⟨_, _, _, run_of_firstOffender first⟩
  · intro error issues left aborted
    obtain ⟨before, offender, first⟩ := exists_firstOffender (exists_offends_of_aborted aborted)
    obtain ⟨outcome_eq, rfl⟩ := Prod.mk.inj (aborted.symm.trans (run_of_firstOffender first))
    obtain ⟨rfl, rfl⟩ := Outcome.aborted.inj outcome_eq
    refine ⟨before, offender, first, failure_eq offender _, ?_, rfl⟩
    exact map_warning?_of_innocent
      (fun errorCall present => first.innocent errorCall (List.mem_filter.mp present).1) _

/-- The sample with a call after it whose message is a name. -/
def sampleWithOffender : Program :=
  let offender := Node.call (.between 0 0) (.identifier (.between 0 0) "fooError")
    [sampleString "bad", .identifier (.between 0 0) "message"]
  { sampleProgram with items := sampleProgram.items ++ [offender] }

/-- The offender in the sample ends the run after the other calls. -/
theorem run_aborted_iff_sample :
    ∃ error issues left,
      sampleSetup.run sampleSource sampleWithOffender = (.aborted error issues, left) ∧
        ∃ before offender,
          FirstOffender (errorCalls sampleNaming sampleWithOffender) before offender ∧
            left = programWithoutMessagesAt
              (addressesOf (before.filter fun errorCall =>
                !decide (Wrapped sampleWithOffender errorCall.address))) sampleWithOffender := by
  obtain ⟨error, issues, left, aborted⟩ :
      ∃ error issues left, sampleSetup.run sampleSource sampleWithOffender =
        (.aborted error issues, left) :=
    ⟨_, _, _, rfl⟩
  obtain ⟨before, offender, first, _, _, left_eq⟩ :=
    (run_aborted_iff sampleSetup sampleSource sampleWithOffender).2 error issues left aborted
  exact ⟨error, issues, left, aborted, before, offender, first, left_eq⟩

end Extraction
end ErrorTemplates
