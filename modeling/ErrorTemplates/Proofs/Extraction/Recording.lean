import ErrorTemplates.Proofs.Extraction.Outcome
import Mathlib.Data.List.Induction
import Mathlib.Data.List.Nodup

/-!
# What a completed run records

The table of a completed run is made of the entries of the calls that lose their messages.
Of entries with the same name space and code the last one gives the template and the first
one the place.
-/

namespace ErrorTemplates
namespace Extraction

open Diagnostic
open Program

/-! ## Recording one entry -/

/-- The codes keep their places, and a new one comes last. -/
theorem map_fst_put (code template : String) (codes : List (String × String)) :
    (put code template codes).map Prod.fst =
      if code ∈ codes.map Prod.fst then codes.map Prod.fst
      else codes.map Prod.fst ++ [code] := by
  induction codes with
  | nil => simp [put]
  | cons pair rest inductionHypothesis =>
      obtain ⟨found, old⟩ := pair
      by_cases same : found = code
      · simp [put, same]
      · rw [put, if_neg same, List.map_cons, inductionHypothesis]
        by_cases later : code ∈ rest.map Prod.fst <;> simp [later, Ne.symm same]

namespace Table

/-- Recording an entry gives its code a template in its name space and nowhere else. -/
theorem codesIn_record (entry : Entry) (name : String) (spaces : List Space) :
    codesIn name (record entry spaces) =
      if name = entry.space then put entry.code entry.template (codesIn name spaces)
      else codesIn name spaces := by
  induction spaces with
  | nil =>
      by_cases same : name = entry.space
      · simp [record, codesIn, put, same]
      · simp [record, codesIn, same, Ne.symm same]
  | cons space rest inductionHypothesis =>
      by_cases isSpace : space.name = entry.space
      · by_cases same : name = entry.space
        · simp [record, codesIn, isSpace, same]
        · simp [record, codesIn, isSpace, same, Ne.symm same]
      · by_cases isNamed : space.name = name
        · have other : name ≠ entry.space := isNamed ▸ isSpace
          simp [record, codesIn, isNamed, other]
        · rw [record, if_neg isSpace, codesIn, if_neg isNamed, inductionHypothesis, codesIn,
            if_neg isNamed]

/-- The name spaces keep their places, and a new one comes last. -/
theorem map_name_record (entry : Entry) (spaces : List Space) :
    (record entry spaces).map Space.name =
      if entry.space ∈ spaces.map Space.name then spaces.map Space.name
      else spaces.map Space.name ++ [entry.space] := by
  induction spaces with
  | nil => simp [record]
  | cons space rest inductionHypothesis =>
      by_cases same : space.name = entry.space
      · simp [record, same]
      · rw [record, if_neg same, List.map_cons, inductionHypothesis]
        by_cases later : entry.space ∈ rest.map Space.name <;> simp [later, Ne.symm same]

theorem get?_insert (table : Table) (entry : Entry) (space code : String) :
    (table.insert entry).get? space code =
      if entry.space = space ∧ entry.code = code then some entry.template
      else table.get? space code := by
  rw [insert, get?, get?, codesIn_record]
  by_cases sameSpace : entry.space = space
  · by_cases sameCode : entry.code = code
    · simp [sameSpace, sameCode, lookup?_put]
    · simp [sameSpace, sameCode, lookup?_put_of_ne _ _ _ (Ne.symm sameCode)]
  · simp [sameSpace, Ne.symm sameSpace]

/-! ## Recording several entries -/

/-- A table with the given entries, recorded one after the other. -/
def ofEntries (entries : List Entry) : Table := entries.foldl insert empty

theorem ofEntries_concat (entries : List Entry) (entry : Entry) :
    ofEntries (entries ++ [entry]) = (ofEntries entries).insert entry := by
  rw [ofEntries, List.foldl_append]
  rfl

/-- A pair has the template of the last entry with that pair. -/
theorem get?_ofEntries (entries : List Entry) (space code : String) :
    (ofEntries entries).get? space code =
      (entries.reverse.find? fun entry => entry.space == space && entry.code == code).map
        Entry.template := by
  induction entries using List.reverseRecOn with
  | nil => rfl
  | append_singleton entries entry inductionHypothesis =>
      rw [ofEntries_concat, get?_insert, inductionHypothesis, List.reverse_concat,
        List.find?_cons]
      by_cases same : entry.space = space ∧ entry.code = code
      · simp [same]
      · have differs : (entry.space == space && entry.code == code) = false := by
          simpa using same
        simp [same, differs]

/-- A recorded pair has the template of some entry with that pair. -/
theorem exists_get?_ofEntries
    {entries : List Entry}
    {entry : Entry}
    (present : entry ∈ entries) :
    ∃ last ∈ entries, last.space = entry.space ∧ last.code = entry.code ∧
      (ofEntries entries).get? entry.space entry.code = some last.template := by
  let isPair (other : Entry) : Bool := other.space == entry.space && other.code == entry.code
  have isFound : (entries.reverse.find? isPair).isSome :=
    List.find?_isSome.mpr ⟨entry, List.mem_reverse.mpr present, by simp [isPair]⟩
  obtain ⟨last, found⟩ := Option.isSome_iff_exists.mp isFound
  obtain ⟨sameSpace, sameCode⟩ : last.space = entry.space ∧ last.code = entry.code := by
    simpa [isPair] using List.find?_some found
  refine ⟨last, List.mem_reverse.mp (List.mem_of_find?_eq_some found), sameSpace, sameCode, ?_⟩
  rw [get?_ofEntries, found, Option.map_some]

/-- A list without duplicates only grows by a new element. -/
theorem eraseDups_concat [BEq α] [LawfulBEq α] (elements : List α) (element : α) :
    (elements ++ [element]).eraseDups =
      if element ∈ elements.eraseDups then elements.eraseDups
      else elements.eraseDups ++ [element] := by
  rw [List.eraseDups_append]
  by_cases present : element ∈ elements <;>
    simp [List.removeAll, present, List.eraseDups_cons]

theorem nodup_eraseDups [BEq α] [LawfulBEq α] (elements : List α) :
    elements.eraseDups.Nodup := by
  induction elements using List.reverseRecOn with
  | nil => exact List.nodup_nil
  | append_singleton elements element inductionHypothesis =>
      rw [eraseDups_concat]
      by_cases present : element ∈ elements.eraseDups
      · rw [if_pos present]
        exact inductionHypothesis
      · rw [if_neg present]
        exact List.nodup_append_comm.mpr (List.nodup_cons.mpr ⟨present, inductionHypothesis⟩)

/-- The name spaces stand in the order in which they first occur. -/
theorem names_ofEntries (entries : List Entry) :
    (ofEntries entries).names = (entries.map Entry.space).eraseDups := by
  induction entries using List.reverseRecOn with
  | nil => rfl
  | append_singleton entries entry inductionHypothesis =>
      rw [List.map_append, List.map_singleton, eraseDups_concat, ← inductionHypothesis,
        ofEntries_concat]
      exact map_name_record entry (ofEntries entries).spaces

/-- The codes of a name space stand in the order in which they first occur there. -/
theorem map_fst_codesIn_ofEntries (entries : List Entry) (name : String) :
    (codesIn name (ofEntries entries).spaces).map Prod.fst =
      ((entries.filter fun entry => entry.space == name).map Entry.code).eraseDups := by
  induction entries using List.reverseRecOn with
  | nil => rfl
  | append_singleton entries entry inductionHypothesis =>
      rw [ofEntries_concat, insert, codesIn_record, List.filter_append]
      by_cases same : entry.space = name
      · have isKept : [entry].filter (fun entry => entry.space == name) = [entry] := by
          simp [same]
        rw [if_pos same.symm, map_fst_put, isKept, List.map_append, List.map_singleton,
          eraseDups_concat, inductionHypothesis]
      · have isDropped : [entry].filter (fun entry => entry.space == name) = [] := by
          simp [same]
        rw [if_neg (Ne.symm same), isDropped, List.append_nil, inductionHypothesis]

/-- No two name spaces have the same name. -/
theorem nodup_names_ofEntries (entries : List Entry) : (ofEntries entries).names.Nodup := by
  rw [names_ofEntries]
  exact nodup_eraseDups _

/-- A name space is found by its name. -/
theorem codesIn_of_mem
    {spaces : List Space}
    (distinct : (spaces.map Space.name).Nodup)
    {space : Space}
    (present : space ∈ spaces) : codesIn space.name spaces = space.codes := by
  induction spaces with
  | nil => simp at present
  | cons first rest inductionHypothesis =>
      obtain ⟨firstOnly, restDistinct⟩ := List.nodup_cons.mp distinct
      rcases List.mem_cons.mp present with rfl | inRest
      · rw [codesIn, if_pos rfl]
      · have other : first.name ≠ space.name := fun same =>
          firstOnly (same ▸ List.mem_map_of_mem inRest)
        rw [codesIn, if_neg other, inductionHypothesis restDistinct inRest]

end Table

/-! ## The table of a completed run -/

/-- The name spaces, codes and messages of the calls that lose their messages, in the order
of the visit. -/
def templates (naming : Naming) (program : Program) : List Entry :=
  (losingCalls naming program).filterMap ErrorCall.folded?

section
variable {setup : Setup} {source : Source} {program left : Program}
variable {table : Table} {issues : List Issue} {statistics : Statistics}
variable (completes : setup.run source program = (.completed table issues statistics, left))
include completes

/-- In a completed run every call that loses its message has an entry. -/
theorem map_folded?_losingCalls :
    (losingCalls setup.naming program).map ErrorCall.folded? =
      (templates setup.naming program).map some :=
  map_eq_map_some_filterMap fun errorCall losing =>
    folded_of_completed completes errorCall (List.mem_filter.mp losing).1

/-- The table of a completed run has the entries of the calls that lose their messages. -/
theorem table_of_completed : table = Table.ofEntries (templates setup.naming program) := by
  have folded := folded_of_completed completes
  obtain ⟨_, _, _, complete_eq⟩ := table_complete setup (setup.sources source)
    (strip setup.naming program) (progressOf setup.naming (setup.sources source) program)
  have completed := runOn_of_folded setup folded (setup.sources source)
  obtain ⟨outcome_eq, _⟩ := Prod.mk.inj (completes.symm.trans (completed.trans complete_eq))
  obtain ⟨rfl, _⟩ := Outcome.completed.inj outcome_eq
  exact table_progressOf folded (setup.sources source)

end

/-- The table of a completed run has exactly the entries of the calls that lose their
messages: a pair has the template of the last call with that pair, name spaces and codes
stand in the order of their first calls, and each message that was removed is in the table
unless another call has the same pair with another message. -/
theorem completed_run_records_templates
    {setup : Setup}
    {source : Source}
    {program left : Program}
    {table : Table}
    {issues : List Issue}
    {statistics : Statistics}
    (completes : setup.run source program = (.completed table issues statistics, left)) :
    let recorded := templates setup.naming program
    (losingCalls setup.naming program).map ErrorCall.folded? = recorded.map some ∧
      (∀ space code, table.get? space code =
        (recorded.reverse.find? fun entry => entry.space == space && entry.code == code).map
          Entry.template) ∧
      table.names = (recorded.map Entry.space).eraseDups ∧
      (∀ space ∈ table.spaces, space.codes.map Prod.fst =
        ((recorded.filter fun entry => entry.space == space.name).map
          Entry.code).eraseDups) ∧
      ∀ errorCall ∈ losingCalls setup.naming program,
        ∃ entry, errorCall.folded? = some entry ∧
          (table.get? entry.space entry.code).isSome ∧
          ((∀ other ∈ recorded, other.space = entry.space -> other.code = entry.code ->
              other.template = entry.template) ->
            table.get? entry.space entry.code = some entry.template) := by
  intro recorded
  have folded_eq := map_folded?_losingCalls completes
  obtain rfl := table_of_completed completes
  have template_eq := Table.get?_ofEntries recorded
  refine ⟨folded_eq, template_eq, Table.names_ofEntries recorded, ?_, ?_⟩
  · intro space present
    rw [← Table.codesIn_of_mem (Table.nodup_names_ofEntries recorded) present]
    exact Table.map_fst_codesIn_ofEntries recorded space.name
  · intro errorCall losing
    obtain ⟨entry, isEntry⟩ := Option.ne_none_iff_exists'.mp
      (folded_of_completed completes errorCall (List.mem_filter.mp losing).1)
    have isRecorded : entry ∈ recorded := List.mem_filterMap.mpr ⟨errorCall, losing, isEntry⟩
    obtain ⟨last, lastRecorded, sameSpace, sameCode, found⟩ :=
      Table.exists_get?_ofEntries isRecorded
    refine ⟨entry, isEntry, by rw [found]; rfl, fun agree => ?_⟩
    rw [found, agree last lastRecorded sameSpace sameCode]

/-- The messages of the sample are recorded in the order of the visit. -/
theorem completed_run_records_templates_sample :
    ∃ table issues statistics left,
      sampleSetup.run sampleSource sampleProgram =
          (.completed table issues statistics, left) ∧
        (templates sampleNaming sampleProgram).map Entry.template = ["Bad", "Much worse"] ∧
        table.names = ((templates sampleNaming sampleProgram).map Entry.space).eraseDups := by
  obtain ⟨table, issues, statistics, left, completes⟩ :
      ∃ table issues statistics left, sampleSetup.run sampleSource sampleProgram =
        (.completed table issues statistics, left) :=
    ⟨_, _, _, _, rfl⟩
  obtain ⟨_, _, names_eq, _⟩ := completed_run_records_templates completes
  exact ⟨table, issues, statistics, left, completes, by decide, names_eq⟩

end Extraction
end ErrorTemplates
