import ErrorTemplates.Extraction.Run
import ErrorTemplates.Proofs.Extraction.Event
import ErrorTemplates.Proofs.Extraction.Wrapped

/-!
# The calls that make errors in a program

All occurrences of calls that make errors, recognised in the program as it is before
anything is removed from it. Those that are wrapped in some throw statement keep their
messages, and the others lose them.
-/

namespace ErrorTemplates
namespace Extraction

open Program

/-- An occurrence as a call that makes an error, if it is one. -/
def errorCallAt? (naming : Naming) (occurrence : Occurrence) : Option ErrorCall :=
  match occurrence.node with
  | .call span callee arguments =>
      (naming.match? callee arguments).map fun found =>
        { address := occurrence.address, call := { span, callee, arguments }, found }
  | _ => none

/-- The calls of a program that make errors, in the order of the visit. -/
def errorCalls (naming : Naming) (program : Program) : List ErrorCall :=
  program.occurrences.filterMap (errorCallAt? naming)

/-- The calls that make errors and are not wrapped, in the order of the visit. -/
def losingCalls (naming : Naming) (program : Program) : List ErrorCall :=
  (errorCalls naming program).filter fun errorCall => !decide (Wrapped program errorCall.address)

/-- The calls that make errors and are wrapped, in the order of the visit. -/
def wrappedCalls (naming : Naming) (program : Program) : List ErrorCall :=
  (errorCalls naming program).filter fun errorCall => decide (Wrapped program errorCall.address)

/-- The calls that make errors are the calls that are recognised, each at its address. -/
theorem mem_errorCalls_iff
    (naming : Naming)
    (program : Program)
    (errorCall : ErrorCall) :
    errorCall ∈ errorCalls naming program ↔
      program.subtree? errorCall.address =
          some (.call errorCall.call.span errorCall.call.callee errorCall.call.arguments) ∧
        naming.match? errorCall.call.callee errorCall.call.arguments = some errorCall.found := by
  simp only [errorCalls, List.mem_filterMap, Program.mem_occurrences_iff]
  constructor
  · rintro ⟨⟨address, node⟩, present, recognised⟩
    cases node with
    | call span callee arguments =>
        obtain ⟨found, matched, rfl⟩ := Option.map_eq_some_iff.mp recognised
        exact ⟨present, matched⟩
    | _ => simp [errorCallAt?] at recognised
  · obtain ⟨address, ⟨span, callee, arguments⟩, found⟩ := errorCall
    rintro ⟨present, matched⟩
    exact ⟨{ address, node := .call span callee arguments }, present,
      by simpa [errorCallAt?] using matched⟩

/-- Calls that make errors are met in the order of their addresses, each of them once. -/
theorem pairwise_errorCalls (naming : Naming) (program : Program) :
    (errorCalls naming program).Pairwise (·.address < ·.address) := by
  refine List.Pairwise.filterMap _ ?_ program.pairwise_occurrences
  intro first second before firstCall isFirst secondCall isSecond
  have address_eq {occurrence : Occurrence} {errorCall : ErrorCall}
      (isCall : errorCallAt? naming occurrence = some errorCall) :
      errorCall.address = occurrence.address := by
    obtain ⟨address, node⟩ := occurrence
    cases node with
    | call =>
        obtain ⟨_, _, rfl⟩ := Option.map_eq_some_iff.mp isCall
        rfl
    | _ => simp [errorCallAt?] at isCall
  rw [address_eq isFirst, address_eq isSecond]
  exact before

theorem nodup_address_errorCalls (naming : Naming) (program : Program) :
    ((errorCalls naming program).map ErrorCall.address).Nodup := by
  refine List.pairwise_map.mpr ((pairwise_errorCalls naming program).imp ?_)
  intro first second before same
  exact List.lt_irrefl second.address (same ▸ before)

/-! ## A sample -/

/-- The names by which calls in the sample are recognised. -/
def sampleNaming : Naming := { factory := "minErr", suffix := "Error" }

/-- A setup without a replacement for the sample. -/
def sampleSetup : Setup := { naming := sampleNaming, replacement := none }

/-- A string in the sample. -/
def sampleString (value : String) : Node := .string (.between 0 0) value (some value)

/-- A program with a direct call, a curried call among the arguments of the direct one, a
call that is wrapped and thrown, and a declaration of the factory. -/
def sampleProgram : Program :=
  let span := Span.between 0 0
  let maker := Node.identifier span "fooError"
  let curried := Node.call span (.identifier span "minErr") [sampleString "bar"]
  let inner := Node.call span curried [sampleString "worse", sampleString "Much worse"]
  let direct := Node.call span maker [sampleString "bad", sampleString "Bad", inner]
  let wrapped := Node.call span maker [sampleString "odd", sampleString "Odd"]
  let signature : Signature :=
    { name := "minErr", nameSpan := span, header := { isAsync := false, isGenerator := false } }
  { isModule := false
    interpreter := none
    items :=
      [.other span .expressionStatement [direct],
        .throwing span (.construct span (.identifier span "Error") [wrapped]),
        .function span signature [] (.other span .block [])]
    finish := 0 }

/-- A source to which the sample belongs. -/
def sampleSource : Source := { file := "sample.js", text := [] }

example : (errorCalls sampleNaming sampleProgram).map ErrorCall.address =
    [[0, 0], [0, 0, 3], [1, 0, 1]] := by
  decide

end Extraction
end ErrorTemplates
