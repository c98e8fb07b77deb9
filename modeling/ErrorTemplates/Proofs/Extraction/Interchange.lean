import ErrorTemplates.Proofs.Extraction.Forms
import ErrorTemplates.Proofs.Extraction.Substitution

/-!
# Programs that are noticed alike

A part of a program can be changed into something that looks alike without a difference for the
outlines of events. Runs over programs with the same outlines end alike, with a replacement as
well as without one, and what a run leaves does not depend on positions either.
-/

namespace ErrorTemplates
namespace Extraction

open Diagnostic
open Program

/-! ## Changed trees -/

section
variable {naming : Naming}

/-- Trees that are changed in places where this is not noticed look alike. -/
theorem alike_mapChildren
    {change : Nat -> Node -> Node}
    (node : Node)
    (within : ∀ index child, node.children[index]? = some child ->
      Alike naming child (change index child)) : Alike naming node (node.mapChildren change) := by
  cases node with
  | identifier => exact .identifier _ _ _
  | string => exact .string _ _ _ _ _
  | sum span left right => exact .sum _ _ (within 0 left rfl) (within 1 right rfl)
  | parens span inner => exact .parens _ _ (within 0 inner rfl)
  | spread span inner => exact .spread _ _ (within 0 inner rfl)
  | call span callee arguments =>
      obtain ⟨length_eq, among⟩ := paired_mapIdx arguments
        fun index child found => within (index + 1) child found
      exact .call _ _ (within 0 callee rfl) length_eq among
  | construct span callee arguments =>
      obtain ⟨length_eq, among⟩ := paired_mapIdx arguments
        fun index child found => within (index + 1) child found
      exact .construct _ _ (within 0 callee rfl) length_eq among
  | throwing span operand => exact .throwing _ _ (within 0 operand rfl)
  | function span signature parameters body =>
      obtain ⟨length_eq, among⟩ := paired_mapIdx parameters fun index child found =>
        within index child (by
          obtain ⟨inBounds, _⟩ := List.getElem?_eq_some_iff.mp found
          rw [Node.children, List.getElem?_append_left inBounds, found])
      exact .function _ _ rfl length_eq among
        (within parameters.length body (by simp [Node.children]))
  | other span shape children =>
      obtain ⟨length_eq, among⟩ := paired_mapIdx children within
      exact .other _ _ length_eq among

theorem alike_refl (node : Node) : Alike naming node node := by
  induction node using Node.induction_on_children with
  | step node inductionHypothesis =>
      have kept : node.mapChildren (fun _ child => child) = node :=
        Node.mapChildren_eq_self node fun _ _ _ => rfl
      have alike := @alike_mapChildren naming (fun _ child => child) node
        fun index child found => inductionHypothesis child (List.mem_of_getElem? found)
      rwa [kept] at alike

/-- A tree looks like the tree with something that looks like a part of it in the place of the
part. -/
theorem alike_replaceAt
    {node found substitute : Node}
    {address : Address}
    (present : node.subtree? address = some found)
    (alike : Alike naming found substitute) :
    Alike naming node (node.replaceAt address substitute) := by
  induction address generalizing node with
  | nil =>
      obtain rfl := Option.some.inj present
      exact alike
  | cons index below inductionHypothesis =>
      rw [Node.subtree?_cons, subtreeAmong?_eq_some_iff] at present
      obtain ⟨child, isChild, presentBelow⟩ := present
      refine alike_mapChildren node fun number other isOther => ?_
      split
      · next same =>
          subst same
          obtain rfl := Option.some.inj (isChild.symm.trans isOther)
          exact inductionHypothesis presentBelow
      · exact alike_refl other

end

/-- Something that looks alike in the place of a part does not change the outlines of events. -/
theorem outlines_events_replaceAt
    {naming : Naming}
    {program : Program}
    {address : Address}
    {found substitute : Node}
    (present : program.subtree? address = some found)
    (alike : Alike naming found substitute) :
    (events naming program).map Event.outline =
      (events naming (program.replaceAt address substitute)).map Event.outline := by
  cases address with
  | nil => rfl
  | cons index below =>
      obtain ⟨item, isItem, presentBelow⟩ := (subtreeAmong?_eq_some_iff _ _ _ _).mp present
      have within (number : Nat) (other : Node) (isOther : program.items[number]? = some other) :
          Alike naming other
            (if number = index then other.replaceAt below substitute else other) := by
        split
        · next same =>
            subst same
            obtain rfl := Option.some.inj (isItem.symm.trans isOther)
            exact alike_replaceAt presentBelow alike
        · exact alike_refl other
      obtain ⟨length_eq, among⟩ := paired_mapIdx program.items within
      exact outlines_events_eq length_eq among

/-! ## Runs -/

/-- The result of a run in which the only declaration of the factory is replaced. -/
def Outcome.substituted : Outcome -> Outcome
  | .completed table issues statistics =>
      .completed table issues
        { statistics with substituted := decide (statistics.definitions = 1) }
  | .aborted error issues => .aborted error issues

theorem withoutLocations_substituted (outcome : Outcome) :
    outcome.substituted.withoutLocations = outcome.withoutLocations.substituted := by
  cases outcome <;> rfl

/-- A replacement only changes what is said of the substitution. -/
theorem outcome_runOn_of_replacement
    (naming : Naming)
    (sources : Sources)
    (replacement : Replacement)
    (program : Program) :
    (Setup.runOn { naming, replacement := some replacement } sources program).1 =
      (Setup.runOn { naming, replacement := none } sources program).1.substituted := by
  rcases differInDefinition_runOn naming sources replacement program with
    ⟨error, issues, left, first_eq, second_eq⟩ |
      ⟨table, issues, statistics, left, changed, first_eq, second_eq, definitions_eq, _⟩
  · rw [first_eq, second_eq]
    rfl
  · rw [first_eq, second_eq, Outcome.substituted, definitions_eq]

/-- The result of a run, apart from locations, follows from the outlines of the events. -/
theorem withoutLocations_run_eq
    {setup : Setup}
    {first second : Program}
    (same : (events setup.naming first).map Event.outline =
      (events setup.naming second).map Event.outline)
    (source otherSource : Source) :
    (setup.run source first).1.withoutLocations =
      (setup.run otherSource second).1.withoutLocations := by
  have plain := withoutLocations_runOn_eq same (setup.sources source) (setup.sources otherSource)
  obtain ⟨naming, _ | replacement⟩ := setup
  · exact plain
  · rw [Setup.run, Setup.run, outcome_runOn_of_replacement, outcome_runOn_of_replacement,
      withoutLocations_substituted, withoutLocations_substituted]
    exact congrArg Outcome.substituted plain

/-- Runs over programs whose events have the same outlines end alike. -/
theorem endAlike_run
    {setup : Setup}
    {first second : Program}
    (same : (events setup.naming first).map Event.outline =
      (events setup.naming second).map Event.outline)
    (source otherSource : Source) :
    EndAlike (setup.run source first).1 (setup.run otherSource second).1 :=
  endAlike_of_withoutLocations_eq (withoutLocations_run_eq same source otherSource)

/-! ## What is left -/

mutual

/-- Declarations are replaced wherever the nodes stand in a text. -/
theorem withoutSpans_splice (name : String) (replacement : Declaration) :
    ∀ node : Node, (splice name replacement node.withoutSpans).withoutSpans =
      (splice name replacement node).withoutSpans
  | .identifier .. => rfl
  | .string .. => rfl
  | .sum _ left right => by
      simp only [Node.withoutSpans, splice, withoutSpans_splice _ _ left,
        withoutSpans_splice _ _ right]
  | .parens _ inner => by
      simp only [Node.withoutSpans, splice, withoutSpans_splice _ _ inner]
  | .spread _ inner => by
      simp only [Node.withoutSpans, splice, withoutSpans_splice _ _ inner]
  | .call _ callee arguments => by
      simp only [Node.withoutSpans, splice, withoutSpans_splice _ _ callee,
        allWithoutSpans_spliceAll _ _ arguments]
  | .construct _ callee arguments => by
      simp only [Node.withoutSpans, splice, withoutSpans_splice _ _ callee,
        allWithoutSpans_spliceAll _ _ arguments]
  | .throwing _ operand => by
      simp only [Node.withoutSpans, splice, withoutSpans_splice _ _ operand]
  | .function _ signature parameters body => by
      by_cases declared : signature.name = name
      · simp only [Node.withoutSpans, splice, declared, if_true]
      · simp only [Node.withoutSpans, splice, declared, if_false, withoutSpans_splice _ _ body,
          allWithoutSpans_spliceAll _ _ parameters]
  | .other _ _ children => by
      simp only [Node.withoutSpans, splice, allWithoutSpans_spliceAll _ _ children]

theorem allWithoutSpans_spliceAll (name : String) (replacement : Declaration) :
    ∀ nodes : List Node, allWithoutSpans (spliceAll name replacement (allWithoutSpans nodes)) =
      allWithoutSpans (spliceAll name replacement nodes)
  | [] => rfl
  | node :: rest => by
      simp only [allWithoutSpans, spliceAll, withoutSpans_splice _ _ node,
        allWithoutSpans_spliceAll _ _ rest]

end

/-- A program in which the declarations of the factory are replaced if there is a replacement. -/
def Setup.substitute (setup : Setup) (program : Program) : Program :=
  match setup.replacement with
  | some replacement => spliceProgram setup.naming.factory replacement.declaration program
  | none => program

/-- A run leaves the program without messages, in which the only declaration of the factory is
replaced unless the run has ended with an error. -/
theorem program_runOn_eq (setup : Setup) (sources : Sources) (program : Program) :
    (setup.runOn sources program).2 =
      let progress := progressOf setup.naming sources program
      let left := programWithoutMessagesAt (removed false (events setup.naming program)) program
      if !progress.isStopped && progress.sites.size == 1 then setup.substitute left else left := by
  rw [runOn_eq]
  cases failed : (progressOf setup.naming sources program).failure with
  | some error => simp [failed, Progress.isStopped]
  | none =>
      obtain ⟨naming, _ | replacement⟩ := setup <;>
        rcases spans : (progressOf naming sources program).sites.spans with
          _ | ⟨first, _ | ⟨second, others⟩⟩ <;>
        simp [failed, Progress.isStopped, Setup.complete, Sites.plan, spans, Sites.size,
          Setup.substitute]

theorem withoutSpans_substitute
    {first second : Program}
    (same : first.withoutSpans = second.withoutSpans)
    (setup : Setup) :
    (setup.substitute first).withoutSpans = (setup.substitute second).withoutSpans := by
  obtain ⟨naming, _ | replacement⟩ := setup
  · exact same
  · have spliced (program : Program) :
        (spliceProgram naming.factory replacement.declaration program).withoutSpans =
          (spliceProgram naming.factory replacement.declaration
            program.withoutSpans).withoutSpans := by
      simp only [Program.withoutSpans, spliceProgram, allWithoutSpans_spliceAll]
    rw [Setup.substitute, Setup.substitute]
    dsimp only
    rw [spliced first, same, ← spliced second]

/-- What a run leaves, apart from positions, follows from the program apart from positions. -/
theorem withoutSpans_run_eq
    {first second : Program}
    (same : first.withoutSpans = second.withoutSpans)
    (setup : Setup)
    (source otherSource : Source) :
    (setup.run source first).2.withoutSpans = (setup.run otherSource second).2.withoutSpans := by
  have outlines_eq := outlines_events_eq_of_withoutSpans_eq same setup.naming
  have removed_eq := removed_eq_of_outlines_eq outlines_eq false
  have progress_eq :
      (progressOf setup.naming (setup.sources source) first).withoutLocations =
        (progressOf setup.naming (setup.sources otherSource) second).withoutLocations := by
    rw [progressOf, progressOf, withoutLocations_foldl_apply, withoutLocations_foldl_apply,
      outlines_eq]
  have size_eq : (progressOf setup.naming (setup.sources source) first).sites.size =
      (progressOf setup.naming (setup.sources otherSource) second).sites.size := by
    simpa [Progress.withoutLocations, Sites.size] using congrArg (·.sites.size) progress_eq
  have stopped_eq := congrArg Progress.isStopped progress_eq
  rw [isStopped_withoutLocations, isStopped_withoutLocations] at stopped_eq
  have left_eq : (programWithoutMessagesAt (removed false (events setup.naming first))
      first).withoutSpans = (programWithoutMessagesAt (removed false (events setup.naming second))
        second).withoutSpans := by
    rw [removed_eq, withoutSpans_programWithoutMessagesAt, same,
      ← withoutSpans_programWithoutMessagesAt]
  rw [Setup.run, Setup.run, program_runOn_eq, program_runOn_eq]
  simp only [stopped_eq, size_eq]
  split_ifs
  · exact withoutSpans_substitute left_eq setup
  · exact left_eq

end Extraction
end ErrorTemplates
