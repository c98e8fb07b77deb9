import ErrorTemplates.Program.Source

/-!
# What is accepted as a fragment

A program is accepted as a fragment when its only statement is a function declaration. Imports
and exports are not statements: beside the declaration they are dropped without a word, and
without a declaration they are no reason for a failure of their own.
-/

namespace ErrorTemplates
namespace Program

/-! ## Statements -/

theorem isStatement_toNode (declaration : Declaration) :
    declaration.toNode.isStatement = true := rfl

/-- An item has a declaration exactly when it is that declaration. -/
theorem declaration?_eq_some_iff {item : Node} {declaration : Declaration} :
    item.declaration? = some declaration ↔ item = declaration.toNode := by
  constructor
  · intro isDeclaration
    cases item with
    | function span signature parameters body =>
        obtain rfl := Option.some.inj isDeclaration
        rfl
    | _ => simp [Node.declaration?] at isDeclaration
  · rintro rfl
    exact declaration?_toNode declaration

/-- A program has a single statement when all its other items are imports and exports. -/
theorem statements_eq_singleton_iff {program : Program} {item : Node} :
    program.statements = [item] ↔
      item.isStatement = true ∧ ∃ before after, program.items = before ++ item :: after ∧
        ∀ other ∈ before ++ after, other.isStatement = false := by
  rw [statements, List.filter_eq_cons_iff]
  constructor
  · rintro ⟨before, after, items_eq, noneBefore, isStatement, noneAfter⟩
    refine ⟨isStatement, before, after, items_eq, List.forall_mem_append.mpr ⟨?_, ?_⟩⟩
    · intro other present
      exact Bool.eq_false_iff.mpr (noneBefore other present)
    · intro other present
      exact Bool.eq_false_iff.mpr (List.filter_eq_nil_iff.mp noneAfter other present)
  · rintro ⟨isStatement, before, after, items_eq, noOther⟩
    obtain ⟨noneBefore, noneAfter⟩ := List.forall_mem_append.mp noOther
    refine ⟨before, after, items_eq, ?_, isStatement, List.filter_eq_nil_iff.mpr ?_⟩
    · intro other present
      exact Bool.eq_false_iff.mp (noneBefore other present)
    · intro other present
      exact Bool.eq_false_iff.mp (noneAfter other present)

theorem statements_eq_items {program : Program} (onlyStatements :
    ∀ item ∈ program.items, item.isStatement = true) : program.statements = program.items :=
  List.filter_eq_self.mpr onlyStatements

/-! ## Fragments -/

section
variable (program : Program)

/-- There is a fragment when the only statement is a function declaration. -/
theorem fragment_eq_ok_iff (declaration : Declaration) :
    program.fragment = .ok declaration ↔ program.statements = [declaration.toNode] := by
  unfold fragment
  cases program.statements with
  | nil => simp
  | cons item others =>
      cases others with
      | cons => simp
      | nil =>
          simp only [List.cons.injEq, and_true, ← declaration?_eq_some_iff]
          cases item.declaration? <;> simp

/-- Without a fragment there is not exactly one statement, or it is something else than a
function declaration. -/
theorem fragment_eq_error_iff (fault : FragmentFault) :
    program.fragment = .error fault ↔
      (fault = .notSingle ∧ program.statements.length ≠ 1) ∨
        (fault = .notFunction ∧ ∃ item, program.statements = [item] ∧
          ∀ declaration : Declaration, item ≠ declaration.toNode) := by
  unfold fragment
  cases program.statements with
  | nil => simp [eq_comm]
  | cons item others =>
      cases others with
      | cons => simp [eq_comm]
      | nil =>
          have isOther_iff : (∀ declaration : Declaration, item ≠ declaration.toNode) ↔
              item.declaration? = none := by
            rw [Option.eq_none_iff_forall_ne_some]
            exact forall_congr' fun declaration => not_congr declaration?_eq_some_iff.symm
          cases declared : item.declaration? <;> simp [isOther_iff, declared, eq_comm]

end

/-- A text is a fragment when it can be read and its program is one; if it is not, the failure
is that of reading it, or it stands at the beginning of the text. -/
theorem parseFragment_eq_of_parse
    {source : Source}
    {parsed : Parsed}
    (parses : source.parse .replacement = .ok parsed) :
    source.parseFragment =
      parsed.program.fragment.mapError fun fault =>
        { location := source.beginning, reason := fault.message } := by
  simp only [Source.parseFragment, parses, Source.fragmentOf]
  cases parsed.program.fragment <;> rfl

/-- A program is accepted as a fragment exactly when one item is a function declaration and all
others are imports and exports, which are dropped. So a program without imports and exports is
accepted exactly when its only item is a function declaration, and every part of it is kept. A
program is rejected when it has no statement, several statements, or one of another kind. -/
theorem fragment_accepted_iff (program : Program) :
    (∀ declaration, program.fragment = .ok declaration ↔
      ∃ before after, program.items = before ++ declaration.toNode :: after ∧
        ∀ other ∈ before ++ after, other.isStatement = false) ∧
    ((∀ item ∈ program.items, item.isStatement = true) ->
      ∀ declaration, program.fragment = .ok declaration ↔
        program.items = [declaration.toNode]) ∧
    (∀ fault, program.fragment = .error fault ↔
      (fault = .notSingle ∧ program.statements.length ≠ 1) ∨
        (fault = .notFunction ∧ ∃ item, program.statements = [item] ∧
          ∀ declaration : Declaration, item ≠ declaration.toNode)) ∧
    ∀ (source : Source) (parsed : Parsed),
      source.parse .replacement = .ok parsed -> parsed.program = program ->
        source.parseFragment = program.fragment.mapError fun fault =>
          { location := source.beginning, reason := fault.message } := by
  refine ⟨fun declaration => ?_, fun onlyStatements declaration => ?_,
    fragment_eq_error_iff program, ?_⟩
  · rw [fragment_eq_ok_iff, statements_eq_singleton_iff]
    exact and_iff_right (isStatement_toNode declaration)
  · rw [fragment_eq_ok_iff, statements_eq_items onlyStatements]
  · rintro source parsed parses rfl
    exact parseFragment_eq_of_parse parses

/-- A function declaration after an import. -/
def importingSource : Source :=
  .ofText "replacement.js"
    "import 'polyfill';\nfunction minErr(module) \x7b return module; \x7d"

/-- A fragment is accepted that has an import besides its declaration, and the import is
dropped. -/
theorem import_beside_declaration_is_dropped :
    ∃ parsed declaration, importingSource.parse .replacement = .ok parsed ∧
      importingSource.parseFragment = .ok declaration ∧
      declaration.signature.name = "minErr" ∧
      parsed.program.items.length = 2 ∧ parsed.program.items ≠ [declaration.toNode] := by
  have evaluates : ((importingSource.parse .replacement).toOption.bind fun parsed =>
      importingSource.parseFragment.toOption.map fun declaration =>
        (declaration.signature.name, parsed.program.items.length)) = some ("minErr", 2) := by
    decide +kernel
  have ok_of_toOption {Answer : Type} {result : Except Unreadable Answer} {answer : Answer}
      (answers : result.toOption = some answer) : result = .ok answer := by
    cases result with
    | error => simp [Except.toOption] at answers
    | ok other => exact congrArg Except.ok (Option.some.inj answers)
  obtain ⟨parsed, parses, evaluates⟩ := Option.bind_eq_some_iff.mp evaluates
  obtain ⟨declaration, accepts, pair_eq⟩ := Option.map_eq_some_iff.mp evaluates
  obtain ⟨name_eq, two⟩ := Prod.mk.inj pair_eq
  refine ⟨parsed, declaration, ok_of_toOption parses, ok_of_toOption accepts, name_eq, two,
    fun single => ?_⟩
  rw [single] at two
  simp at two

end Program
end ErrorTemplates
