import ErrorTemplates.Proofs.Extraction.Interchange

/-!
# Constants are known by their values

An expression is folded if it is built from string literals, plus signs and parentheses. It is
folded to the text that it evaluates to. A run notices nothing else of it: expressions that are
folded to the same text can stand for each other wherever they are.
-/

namespace ErrorTemplates
namespace Extraction

open Diagnostic
open Program

/-! ## What is folded -/

/-- The expression is built from these literals in the order of the text, from plus signs and from
parentheses. -/
inductive BuiltFrom : Node -> List String -> Prop
  | literal (span : Span) (raw text : String) : BuiltFrom (.string span raw (some text)) [text]
  | sum
      {left right : Node}
      {first second : List String}
      (span : Span)
      (lefts : BuiltFrom left first)
      (rights : BuiltFrom right second) :
      BuiltFrom (.sum span left right) (first ++ second)
  | parens
      {inner : Node}
      {literals : List String}
      (span : Span)
      (inside : BuiltFrom inner literals) :
      BuiltFrom (.parens span inner) literals

/-- The code units of a text. A character above U+FFFF has two. -/
def units (text : String) : List Nat :=
  text.toList.flatMap fun character =>
    if character.toNat < 0x10000 then [character.toNat]
    else
      [0xd800 + (character.toNat - 0x10000) / 0x400, 0xdc00 + (character.toNat - 0x10000) % 0x400]

/-- The code units of the string that an expression evaluates to. A plus sign puts the second string
after the first one. -/
inductive Evaluates : Node -> List Nat -> Prop
  | literal (span : Span) (raw text : String) :
      Evaluates (.string span raw (some text)) (units text)
  | sum
      {left right : Node}
      {first second : List Nat}
      (span : Span)
      (lefts : Evaluates left first)
      (rights : Evaluates right second) :
      Evaluates (.sum span left right) (first ++ second)
  | parens
      {inner : Node}
      {value : List Nat}
      (span : Span)
      (inside : Evaluates inner value) :
      Evaluates (.parens span inner) value

section
variable {expression : Node} {text : String}

/-- An expression is folded if it is built from literals, and then to what these are joined. -/
theorem constant?_eq_some_iff :
    constant? expression = some text ↔
      ∃ literals, BuiltFrom expression literals ∧ text = String.join literals := by
  constructor
  · intro constant
    fun_induction constant? expression generalizing text with
    | case1 span raw value =>
        subst constant
        exact ⟨[text], .literal span raw text, by simp⟩
    | case2 span left right leftHypothesis rightHypothesis =>
        simp only [Option.bind_eq_bind, Option.bind_eq_some_iff, Option.pure_def,
          Option.some.injEq] at constant
        obtain ⟨first, leftConstant, second, rightConstant, rfl⟩ := constant
        obtain ⟨lefts, leftBuilt, rfl⟩ := leftHypothesis leftConstant
        obtain ⟨rights, rightBuilt, rfl⟩ := rightHypothesis rightConstant
        exact ⟨lefts ++ rights, .sum span leftBuilt rightBuilt, by simp⟩
    | case3 span inner innerHypothesis =>
        obtain ⟨literals, built, rfl⟩ := innerHypothesis constant
        exact ⟨literals, .parens span built, rfl⟩
    | case4 => simp at constant
  · rintro ⟨literals, built, rfl⟩
    induction built with
    | literal => simp
    | sum span lefts rights leftHypothesis rightHypothesis =>
        simp [constant?, leftHypothesis, rightHypothesis]
    | parens span inside innerHypothesis => exact innerHypothesis

theorem units_append (first second : String) :
    units (first ++ second) = units first ++ units second := by
  simp [units]

/-- An expression that is folded evaluates to the text that it is folded to. -/
theorem evaluates_iff_of_constant
    (constant : constant? expression = some text)
    (value : List Nat) : Evaluates expression value ↔ value = units text := by
  fun_induction constant? expression generalizing text value with
  | case1 span raw written =>
      subst constant
      constructor
      · intro evaluates
        cases evaluates
        rfl
      · rintro rfl
        exact .literal span raw text
  | case2 span left right leftHypothesis rightHypothesis =>
      simp only [Option.bind_eq_bind, Option.bind_eq_some_iff, Option.pure_def,
        Option.some.injEq] at constant
      obtain ⟨first, leftConstant, second, rightConstant, rfl⟩ := constant
      constructor
      · intro evaluates
        cases evaluates with
        | sum _ lefts rights =>
            rw [(leftHypothesis leftConstant _).mp lefts,
              (rightHypothesis rightConstant _).mp rights, units_append]
      · rintro rfl
        rw [units_append]
        exact .sum span ((leftHypothesis leftConstant _).mpr rfl)
          ((rightHypothesis rightConstant _).mpr rfl)
  | case3 span inner innerHypothesis =>
      constructor
      · intro evaluates
        cases evaluates with
        | parens _ inside => exact (innerHypothesis constant _).mp inside
      · rintro rfl
        exact .parens span ((innerHypothesis constant _).mpr rfl)
  | case4 => simp at constant

end

/-- An expression is folded if it is built from string literals, plus signs and parentheses, and
then to its literals from left to right, which is what it evaluates to. Whatever it is used for in
a program, another expression that is folded to the same text can stand in its place: the table
and the counts stay the same, and up to positions the issues do. -/
theorem constants_interchangeable :
    (∀ expression text, constant? expression = some text ↔
      ∃ literals, BuiltFrom expression literals ∧ text = String.join literals) ∧
    (∀ expression text, constant? expression = some text ->
      ∀ value, Evaluates expression value ↔ value = units text) ∧
    ∀ (setup : Setup) (source otherSource : Source) (program other : Program) (address : Address)
      (expression substitute : Node) (text : String),
      program.subtree? address = some expression -> constant? expression = some text ->
      constant? substitute = some text ->
      other.withoutSpans = (program.replaceAt address substitute).withoutSpans ->
      EndAlike (setup.run source program).1 (setup.run otherSource other).1 := by
  refine ⟨fun _ _ => constant?_eq_some_iff, fun _ _ => evaluates_iff_of_constant, ?_⟩
  intro setup source otherSource program other address expression substitute text present
    isConstant isSubstitute same
  refine endAlike_run ?_ source otherSource
  rw [outlines_events_eq_of_withoutSpans_eq same]
  exact outlines_events_replaceAt present (.constants isConstant isSubstitute)

/-- The message "Bad", put together inside parentheses. -/
def sampleJoined : Node :=
  .parens (.between 0 0) (.sum (.between 0 0) (sampleString "B") (sampleString "ad"))

/-- In the sample a message that is put together can stand in the place of the direct call's. -/
theorem constants_interchangeable_sample :
    let other := sampleProgram.replaceAt [0, 0, 2] sampleJoined
    sampleProgram.subtree? [0, 0, 2] = some (sampleString "Bad") ∧
      other.subtree? [0, 0, 2] = some sampleJoined ∧
      constant? sampleJoined = some "Bad" ∧
      Evaluates sampleJoined (units "Bad") ∧
      EndAlike (sampleSetup.run sampleSource sampleProgram).1
        (sampleSetup.run sampleSource other).1 := by
  intro other
  obtain ⟨constant_iff, evaluates_iff, interchanges⟩ := constants_interchangeable
  have built : BuiltFrom sampleJoined ["B", "ad"] :=
    .parens _ (.sum _ (.literal _ _ _) (.literal _ _ _))
  have isConstant : constant? sampleJoined = some "Bad" :=
    (constant_iff sampleJoined "Bad").mpr ⟨["B", "ad"], built, by decide⟩
  refine ⟨rfl, rfl, isConstant, (evaluates_iff _ _ isConstant _).mpr rfl, ?_⟩
  exact interchanges sampleSetup sampleSource sampleSource sampleProgram other [0, 0, 2]
    (sampleString "Bad") sampleJoined "Bad" rfl rfl isConstant rfl

example :
    let span := Span.between 0 0
    let first := sampleString "a"
    let second := sampleString "b"
    let third := sampleString "c"
    constant? (.sum span first (.parens span (.sum span second third))) = some "abc" ∧
      constant? (.parens span (.sum span (.sum span first second) third)) = some "abc" ∧
      constant? (.sum span first (.identifier span "b")) = none := by
  decide

end Extraction
end ErrorTemplates
