import ErrorTemplates.Proofs.Extraction.Counters

/-!
# Tables as ordered maps

However entries are recorded, a table is a map from name spaces and codes to templates that
stands in the order of first occurrence. What holds of all tables is followed from one entry to
the next: an entry changes the template of its own pair, and it moves nothing.
-/

namespace ErrorTemplates
namespace Extraction

/-- The name space and the code of an entry. -/
def Entry.pair (entry : Entry) : String × String := (entry.space, entry.code)

theorem put_ne_nil (code template : String) (codes : List (String × String)) :
    put code template codes ≠ [] := by
  cases codes with
  | nil => simp [put]
  | cons pair rest =>
      rw [put]
      split <;> exact List.cons_ne_nil _ _

namespace Table

/-- The codes of a name space in order. -/
def codes (table : Table) (name : String) : List String :=
  (codesIn name table.spaces).map Prod.fst

/-- What a table says of the entries that were recorded in it. -/
structure Keeps (table : Table) (entries : List Entry) : Prop where
  /-- Name spaces stand in the order in which they first occur. -/
  names_eq : table.names = (entries.map Entry.space).eraseDups
  /-- No name space occurs twice. -/
  names_distinct : table.names.Nodup
  /-- The codes of a name space stand in the order in which they first occur there. -/
  codes_eq : ∀ space ∈ table.spaces, space.codes.map Prod.fst =
    ((entries.filter fun entry => entry.space == space.name).map Entry.code).eraseDups
  /-- No code occurs twice in a name space. -/
  codes_distinct : ∀ space ∈ table.spaces, (space.codes.map Prod.fst).Nodup
  /-- Every name space has a code. -/
  codes_ne_nil : ∀ space ∈ table.spaces, space.codes ≠ []
  /-- There are as many templates as different pairs. -/
  size_eq : table.size = (entries.map Entry.pair).eraseDups.length
  /-- A pair has the template of the last entry with that pair. -/
  get?_eq : ∀ space code, table.get? space code =
    (entries.reverse.find? fun entry => entry.space == space && entry.code == code).map
      Entry.template

/-- What recording an entry in a table does. -/
structure Records (table : Table) (entry : Entry) (after : Table) (recorded : Recorded) :
    Prop where
  /-- A template is replaced when the pair had one. -/
  updated_iff : recorded = .updated ↔ (table.get? entry.space entry.code).isSome = true
  /-- A template is added when the pair had none. -/
  added_iff : recorded = .added ↔ table.get? entry.space entry.code = none
  /-- The table grows by an added template. -/
  size_eq : after.size = table.size + if recorded = .added then 1 else 0
  /-- The pair has the template of the entry. -/
  get?_eq : after.get? entry.space entry.code = some entry.template
  /-- All other pairs have the templates that they had. -/
  get?_of_ne : ∀ space code, (space, code) ≠ entry.pair ->
    after.get? space code = table.get? space code
  /-- Name spaces stay where they are, and a new one comes last. -/
  names_eq : after.names =
    if entry.space ∈ table.names then table.names else table.names ++ [entry.space]
  /-- Codes stay where they are, and a new one comes last in its name space. -/
  codes_eq : ∀ name, after.codes name =
    if name = entry.space ∧ entry.code ∉ table.codes name then table.codes name ++ [entry.code]
    else table.codes name

/-! ## One entry -/

theorem outcome_eq (table : Table) (entry : Entry) :
    table.outcome entry =
      if (table.get? entry.space entry.code).isSome then .updated else .added := by
  rw [outcome]
  cases table.get? entry.space entry.code <;> rfl

theorem codes_insert (table : Table) (entry : Entry) (name : String) :
    (table.insert entry).codes name =
      if name = entry.space ∧ entry.code ∉ table.codes name then
        table.codes name ++ [entry.code]
      else table.codes name := by
  unfold codes
  rw [insert, codesIn_record]
  by_cases same : name = entry.space
  · rw [if_pos same, map_fst_put]
    by_cases known : entry.code ∈ (codesIn name table.spaces).map Prod.fst
    · rw [if_pos known, if_neg fun new => new.2 known]
    · rw [if_neg known, if_pos ⟨same, known⟩]
  · rw [if_neg same, if_neg fun new => same new.1]

/-- Recording an entry changes a table at the pair of the entry only. -/
theorem records_insert (table : Table) (entry : Entry) :
    table.Records entry (table.insert entry) (table.outcome entry) where
  updated_iff := by
    rw [outcome_eq]
    split <;> simp_all
  added_iff := by
    rw [outcome_eq, ← Option.not_isSome_iff_eq_none]
    split <;> simp_all
  size_eq := by
    have grown := table.size_insert entry
    cases recorded : table.outcome entry <;> simp_all
  get?_eq := by rw [get?_insert, if_pos ⟨rfl, rfl⟩]
  get?_of_ne := by
    intro space code other
    have isOther : ¬ (entry.space = space ∧ entry.code = code) := fun same =>
      other (Prod.ext same.1.symm same.2.symm)
    rw [get?_insert, if_neg isOther]
  names_eq := map_name_record entry table.spaces
  codes_eq := codes_insert table entry

/-- Recording an entry leaves no name space without codes. -/
theorem codes_ne_nil_of_mem_record
    {entry : Entry}
    {spaces : List Space}
    (nonempty : ∀ space ∈ spaces, space.codes ≠ []) :
    ∀ space ∈ record entry spaces, space.codes ≠ [] := by
  induction spaces with
  | nil => simp [record]
  | cons first rest inductionHypothesis =>
      obtain ⟨firstNonempty, restNonempty⟩ := List.forall_mem_cons.mp nonempty
      by_cases same : first.name = entry.space
      · rw [record, if_pos same]
        exact List.forall_mem_cons.mpr ⟨put_ne_nil _ _ _, restNonempty⟩
      · rw [record, if_neg same]
        exact List.forall_mem_cons.mpr ⟨firstNonempty, inductionHypothesis restNonempty⟩

/-! ## All entries -/

/-- A table has a template for exactly the pairs that were recorded. -/
theorem isSome_get?_ofEntries_iff (entries : List Entry) (entry : Entry) :
    ((ofEntries entries).get? entry.space entry.code).isSome = true ↔
      entry.pair ∈ entries.map Entry.pair := by
  rw [get?_ofEntries, Option.isSome_map, List.find?_isSome, List.mem_map]
  simp [Entry.pair]

theorem size_ofEntries (entries : List Entry) :
    (ofEntries entries).size = (entries.map Entry.pair).eraseDups.length := by
  induction entries using List.reverseRecOn with
  | nil => rfl
  | append_singleton entries entry inductionHypothesis =>
      have recorded := records_insert (ofEntries entries) entry
      have known_iff := isSome_get?_ofEntries_iff entries entry
      rw [ofEntries_concat, recorded.size_eq, inductionHypothesis, List.map_append,
        List.map_singleton, eraseDups_concat]
      by_cases known : entry.pair ∈ entries.map Entry.pair
      · rw [if_pos (List.mem_eraseDups.mpr known),
          recorded.updated_iff.mpr (known_iff.mpr known)]
        rfl
      · have isNew := Option.not_isSome_iff_eq_none.mp (mt known_iff.mp known)
        rw [if_neg (mt List.mem_eraseDups.mp known), recorded.added_iff.mpr isNew,
          List.length_append]
        rfl

theorem codes_ne_nil_ofEntries (entries : List Entry) :
    ∀ space ∈ (ofEntries entries).spaces, space.codes ≠ [] := by
  induction entries using List.reverseRecOn with
  | nil => simp [ofEntries, empty]
  | append_singleton entries entry inductionHypothesis =>
      rw [ofEntries_concat]
      exact codes_ne_nil_of_mem_record inductionHypothesis

theorem keeps_ofEntries (entries : List Entry) : (ofEntries entries).Keeps entries where
  names_eq := names_ofEntries entries
  names_distinct := nodup_names_ofEntries entries
  codes_eq := by
    intro space present
    rw [← codesIn_of_mem (nodup_names_ofEntries entries) present, map_fst_codesIn_ofEntries]
  codes_distinct := by
    intro space present
    rw [← codesIn_of_mem (nodup_names_ofEntries entries) present, map_fst_codesIn_ofEntries]
    exact nodup_eraseDups _
  codes_ne_nil := codes_ne_nil_ofEntries entries
  size_eq := size_ofEntries entries
  get?_eq := get?_ofEntries entries

/-- A table whose name spaces have codes is empty when it has no templates. -/
theorem isEmpty_iff_size_eq_zero
    {table : Table}
    (nonempty : ∀ space ∈ table.spaces, space.codes ≠ []) :
    table.isEmpty = true ↔ table.size = 0 := by
  rw [isEmpty, size, List.isEmpty_iff]
  constructor
  · intro noSpace
    rw [noSpace]
    rfl
  · intro noTemplate
    cases spaces_eq : table.spaces with
    | nil => rfl
    | cons space rest =>
        rw [spaces_eq] at nonempty noTemplate
        have some := List.length_pos_of_ne_nil (nonempty space List.mem_cons_self)
        rw [sizeOf] at noTemplate
        omega

end Table

/-- After any entries a table is a map in order of first occurrence, with at least one code in
each name space, which is empty exactly when it has no templates; and one more entry, whatever
it is, is recorded as new or as known, changes the template of its own pair, and moves nothing. -/
theorem table_is_ordered_map (entries : List Entry) :
    let table := Table.ofEntries entries
    table.Keeps entries ∧
      (table.isEmpty = true ↔ table.size = 0) ∧
      ∀ entry,
        table.Records entry (Table.ofEntries (entries ++ [entry])) (table.outcome entry) ∧
          (table.outcome entry = .updated ↔ entry.pair ∈ entries.map Entry.pair) := by
  intro table
  have keeps := Table.keeps_ofEntries entries
  refine ⟨keeps, Table.isEmpty_iff_size_eq_zero keeps.codes_ne_nil, fun entry => ?_⟩
  have records := Table.records_insert table entry
  rw [Table.ofEntries_concat]
  exact ⟨records, records.updated_iff.trans (Table.isSome_get?_ofEntries_iff entries entry)⟩

/-- Name spaces that are recorded in turns, and a pair that is recorded again. -/
example :
    let entries : List Entry :=
      [{ space := "foo", code := "one", template := "first" },
        { space := "bar", code := "one", template := "other" },
        { space := "foo", code := "two", template := "next" },
        { space := "foo", code := "one", template := "last" }]
    let table := Table.ofEntries entries
    table.names = ["foo", "bar"] ∧ table.codes "foo" = ["one", "two"] ∧ table.size = 3 ∧
      table.get? "foo" "one" = some "last" := by
  decide

end Extraction
end ErrorTemplates
