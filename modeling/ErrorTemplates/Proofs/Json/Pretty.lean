import ErrorTemplates.Proofs.Json.Compact

/-!
# What the pretty form stands for

The pretty form differs from the compact one by blanks between tokens. So it stands for the same
value.
-/

namespace ErrorTemplates
namespace Json

/-- Only blanks are at the beginning of a line. -/
theorem gap_lineStart (level : Nat) (rest : List Char) :
    Gap isBlank ((lineStart level).toList ++ rest) rest := by
  have spaces (count : Nat) : Gap isBlank (List.replicate count ' ' ++ rest) rest := by
    induction count with
    | zero => exact .none rest
    | succ count inductionHypothesis => exact .more (by decide) inductionHypothesis
  have started : (lineStart level).toList ++ rest =
      '\n' :: (List.replicate (2 * level) ' ' ++ rest) := by
    simp [lineStart]
  rw [started]
  exact .more (by decide) (spaces _)

section
variable {rest : List Char}

/-- A value is read from its pretty form, whatever follows. -/
def ReadsPretty (value : Value) : Prop :=
  ∀ level rest, Reads isBlank ((value.prettyAt level).toList ++ rest) value.datum rest

/-- A member is read from its name and its value. -/
theorem member_pretty
    {value : Value}
    (readsValue : ReadsPretty value)
    (name : String)
    (level : Nat)
    (rest : List Char) :
    Member isBlank ((quote name).toList ++ ": ".toList ++ ((value.prettyAt level).toList ++ rest))
      (letters name, value.datum) rest := by
  have name_eq : (quote name).toList ++ ": ".toList ++ ((value.prettyAt level).toList ++ rest) =
      '"' :: (escapeAll name.toList ++
        '"' :: ':' :: ' ' :: ((value.prettyAt level).toList ++ rest)) := by
    simp [toList_quote]
  rw [name_eq]
  exact .named ((letters_escapeAll_iff _).mpr ⟨rfl, rfl⟩) (.none _)
    (.more (by decide) (.none _)) (readsValue level rest)

/-- The members of an object are read from their lines. -/
theorem members_pretty
    {member : String × Value}
    {others : List (String × Value)}
    {closed : List Char}
    (readsValues : ∀ each ∈ member :: others, ReadsPretty each.2)
    (level : Nat)
    (gap : Gap isBlank closed ('\x7d' :: rest)) :
    ∃ first,
      Gap isBlank ((Value.prettyMembers level (member :: others)).toList ++ closed) first ∧
        Members isBlank first (Value.memberData (member :: others)) rest := by
  obtain ⟨name, value⟩ := member
  obtain ⟨readsValue, readsOthers⟩ := List.forall_mem_cons.mp readsValues
  induction others generalizing name value with
  | nil =>
      refine ⟨_, ?_, .last (member_pretty readsValue name level closed) gap⟩
      simpa [Value.prettyMembers] using gap_lineStart level _
  | cons other others inductionHypothesis =>
      obtain ⟨readsOther, readsRest⟩ := List.forall_mem_cons.mp readsOthers
      obtain ⟨first, beforeOthers, isOthers⟩ :=
        inductionHypothesis other.1 other.2 readsOthers readsOther readsRest
      refine ⟨_, ?_, .more (member_pretty readsValue name level
        (',' :: ((Value.prettyMembers level (other :: others)).toList ++ closed)))
        (.none _) beforeOthers isOthers⟩
      simpa [Value.prettyMembers] using gap_lineStart level _

theorem reads_pretty (value : Value) : ReadsPretty value := by
  induction value using Value.induction_on_members with
  | string text =>
      intro level rest
      have quoted : ((Value.string text).prettyAt level).toList ++ rest =
          '"' :: (escapeAll text.toList ++ '"' :: rest) := by
        simp [Value.prettyAt, toList_quote]
      rw [quoted]
      exact .string ((letters_escapeAll_iff _).mpr ⟨rfl, rfl⟩)
  | object members inductionHypothesis =>
      intro level rest
      cases members with
      | nil =>
          have braced : ((Value.object []).prettyAt level).toList ++ rest =
              '\x7b' :: '\x7d' :: rest := by
            simp [Value.prettyAt]
          rw [braced]
          exact .emptyObject (.none _)
      | cons member others =>
          have closed : Gap isBlank ((lineStart level).toList ++ '\x7d' :: rest)
              ('\x7d' :: rest) :=
            gap_lineStart level _
          obtain ⟨first, gap, isMembers⟩ := members_pretty inductionHypothesis (level + 1) closed
          have braced : ((Value.object (member :: others)).prettyAt level).toList ++ rest =
              '\x7b' :: ((Value.prettyMembers (level + 1) (member :: others)).toList ++
                ((lineStart level).toList ++ '\x7d' :: rest)) := by
            simp [Value.prettyAt]
          rw [braced]
          exact .object gap isMembers

/-- The pretty form of a value stands for the value. -/
theorem document_pretty (value : Value) : Document isBlank value.pretty.toList value.datum := by
  refine ⟨_, [], .none _, ?_, .none _⟩
  simpa [Value.pretty] using reads_pretty value 0 []

end

end Json
end ErrorTemplates
