import ErrorTemplates.Program.Source
import Mathlib.Data.List.Basic

/-!
# Blanks before a program

Blanks before the first token of a program are passed and leave nothing behind but a position. So
an error can be found arbitrarily far into a line.
-/

namespace ErrorTemplates
namespace Program

/-- Blanks in a gap are passed. -/
theorem Gap.read_replicate
    (previous : Option Token)
    (gap : Gap)
    (count : Nat)
    (rest : List Char) :
    Gap.read previous .outside gap (List.replicate count ' ' ++ rest) =
      Gap.read previous .outside (gap.moveBy count) rest := by
  induction count generalizing gap with
  | zero => rfl
  | succ count inductionHypothesis =>
      have step : Gap.read previous .outside gap (' ' :: (List.replicate count ' ' ++ rest)) =
          Gap.read previous .outside (gap.moveBy 1) (List.replicate count ' ' ++ rest) := rfl
      rw [List.replicate_succ, List.cons_append, step, inductionHypothesis, Gap.moveBy, Gap.moveBy,
        Gap.moveBy, Nat.add_assoc, Nat.add_comm 1]

theorem bytes_replicate (count : Nat) : bytes (List.replicate count ' ') = count := by
  induction count with
  | zero => rfl
  | succ count inductionHypothesis =>
      rw [List.replicate_succ, bytes, inductionHypothesis]
      exact Nat.add_comm 1 count

/-- A brace after blanks. -/
def braceAfter (count : Nat) : List Char := List.replicate count ' ' ++ ['}']

theorem withoutMark_braceAfter (count : Nat) :
    Text.withoutMark (braceAfter count) = braceAfter count := by
  cases count <;> rfl

/-- The gap before that brace. -/
def gapOf (count : Nat) : Gap :=
  { rest := ['}'], position := count, lineBreak := true, behind := [], ahead := [] }

/-- The first token after blanks is found behind them. -/
theorem initial_braceAfter {count : Nat} (positive : 0 < count) (origin : Origin) :
    Parse.State.initial origin (braceAfter count) =
      Parse.State.enter
        { origin
          token := .ending
          text := braceAfter count
          rest := braceAfter count
          start := 0
          stop := 0
          lineBreak := true
          previousStop := 0
          comments := .none
          isModule := false
          context :=
            { inFunction := false, inAsync := false, inGenerator := false, allowsIn := true }
          limit := count + 2
          arrowStart := none }
        (gapOf count) := by
  obtain ⟨fewer, rfl⟩ := Nat.exists_eq_add_of_lt positive
  have noName : Parse.State.interpreter? (braceAfter (0 + fewer + 1)) = none := rfl
  have passed : Gap.read none .outside
      { rest := [], position := 0, lineBreak := true, behind := [], ahead := [] }
      (braceAfter (0 + fewer + 1)) = gapOf (0 + fewer + 1) := by
    rw [braceAfter, Gap.read_replicate, Gap.moveBy, Nat.zero_add]
    rfl
  have length_eq : (braceAfter (0 + fewer + 1)).length = 0 + fewer + 1 + 1 := by simp [braceAfter]
  simp only [Parse.State.initial, noName, length_eq]
  exact congrArg _ passed

/-- The error with which a reader ends. -/
def error? {α : Type} : EStateM.Result SyntaxError Parse.State α -> Option SyntaxError
  | .error error _ => some error
  | .ok _ _ => none

/-- A brace cannot begin a program, and is still found after many blanks. -/
theorem parse_braceAfter :
    parse .program (braceAfter 65536) =
      .error { cause := .expressionExpected, position := 65536 } := by
  have length_eq : (braceAfter 65536).length = 65537 := by
    rw [braceAfter, List.length_append, List.length_replicate, List.length_singleton]
  have fails : error? (Parse.items (Parse.levelsFor 65537)
      (Parse.State.initial .program (braceAfter 65536))) =
        some { cause := .expressionExpected, position := 65536 } := by
    rw [initial_braceAfter (by decide)]
    decide +kernel
  rw [parse, length_eq]
  generalize Parse.items (Parse.levelsFor 65537)
    (Parse.State.initial .program (braceAfter 65536)) = read at fails
  cases read with
  | error error => exact congrArg _ (Option.some.inj fails)
  | ok => cases fails

/-- A text that is no program is told with the place of its error. -/
theorem Source.parse_eq_error
    {origin : Origin}
    {file : String}
    {text : List Char}
    {cause : SyntaxCause}
    {position : Nat}
    (fails : Program.parse origin text = .error { cause, position }) :
    Source.parse { file, text } origin =
      .error { location := Text.locate file text position, reason := cause.message } := by
  rw [Source.parse, fails]
  rfl

end Program
end ErrorTemplates
