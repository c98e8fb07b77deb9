import ErrorTemplates.Extraction.TableText
import ErrorTemplates.Proofs.Extraction.Recording
import ErrorTemplates.Proofs.Json.Compact

/-!
# What the text of a table stands for

The text of a table is a JSON document without blanks. It stands for an object that has the
name spaces of the table in order, each with its codes and their templates in order, and no
other table has the same text.
-/

namespace ErrorTemplates
namespace Extraction

open Json

/-- The codes of a name space with their templates. -/
def Space.datum (space : Space) : Datum :=
  .object (space.codes.map fun pair => (letters pair.1, .string (letters pair.2)))

/-- The name spaces of a table with their codes. -/
def Table.datum (table : Table) : Datum :=
  .object (table.spaces.map fun space => (letters space.name, space.datum))

theorem memberData_eq_map (members : List (String × Value)) :
    Value.memberData members = members.map fun member => (letters member.1, member.2.datum) := by
  induction members with
  | nil => rfl
  | cons member others inductionHypothesis =>
      rw [Value.memberData, inductionHypothesis, List.map_cons]

/-- The value that is written for a table stands for the table. -/
theorem datum_toJson (table : Table) : table.toJson.datum = table.datum := by
  simp only [Table.toJson, Table.datum, Space.toJson, Space.datum, Value.datum,
    memberData_eq_map, List.map_map, Function.comp_def]

/-! ## Different tables -/

/-- What is written for a name space determines its codes. -/
theorem codes_eq_of_datum_eq
    {first second : Space}
    (same : first.datum = second.datum) : first.codes = second.codes := by
  refine List.map_injective_iff.mpr ?_ (Datum.object.inj same)
  intro pair other samePair
  obtain ⟨sameCode, sameTemplate⟩ := Prod.mk.inj samePair
  apply Prod.ext
  · exact letters_injective sameCode
  · exact letters_injective (Datum.string.inj sameTemplate)

/-- What is written for a table determines the table. -/
theorem Table.datum_injective : Function.Injective Table.datum := by
  intro table other same
  have sameSpaces : table.spaces = other.spaces := by
    refine List.map_injective_iff.mpr ?_ (Datum.object.inj same)
    intro space another sameSpace
    obtain ⟨sameName, sameDatum⟩ := Prod.mk.inj sameSpace
    cases space
    cases another
    congr
    · exact letters_injective sameName
    · exact codes_eq_of_datum_eq sameDatum
  cases table
  cases other
  congr

/-! ## Different names -/

/-- No two codes of a name space are the same. -/
theorem nodup_codes_ofEntries
    {entries : List Entry}
    {space : Space}
    (present : space ∈ (Table.ofEntries entries).spaces) :
    (space.codes.map Prod.fst).Nodup := by
  rw [← Table.codesIn_of_mem (Table.nodup_names_ofEntries entries) present,
    Table.map_fst_codesIn_ofEntries]
  exact Table.nodup_eraseDups _

/-- In the document of a table that was made by recording entries no name occurs twice in an
object. -/
theorem distinct_datum_ofEntries (entries : List Entry) :
    (Table.ofEntries entries).datum.Distinct := by
  have distinctMap {names : List String} (distinct : names.Nodup) :
      (names.map letters).Nodup := (List.nodup_map_iff letters_injective).mpr distinct
  apply Datum.Distinct.object
  · rw [List.map_map]
    have distinct := distinctMap (Table.nodup_names_ofEntries entries)
    rwa [Table.names, List.map_map] at distinct
  · intro member isMember
    obtain ⟨space, present, rfl⟩ := List.mem_map.mp isMember
    apply Datum.Distinct.object
    · rw [List.map_map]
      have distinct := distinctMap (nodup_codes_ofEntries present)
      rwa [List.map_map] at distinct
    · intro pair isPair
      obtain ⟨_, _, rfl⟩ := List.mem_map.mp isPair
      exact .string _

/-! ## The document of a table -/

/-- The text of a table that was made by recording entries is a JSON document without blanks
between its tokens and without control characters. It stands for the name spaces of the table
in order, with their codes and templates in order, and for nothing else; no name occurs twice
in an object; and no other table has the same text. -/
theorem text_encodes_table (entries : List Entry) :
    let table := Table.ofEntries entries
    Document noBlank table.text.toList table.datum ∧
      (∀ found, Document isBlank table.text.toList found ↔ found = table.datum) ∧
      NoControl table.text.toList ∧
      table.datum.Distinct ∧
      ∀ other : Table, other.text = table.text -> other = table := by
  intro table
  have stands (other : Table) (found : Datum) :
      Document isBlank other.text.toList found ↔ found = other.datum := by
    rw [Table.text, document_compact_iff (fun _ => id), datum_toJson]
  refine ⟨?_, stands table, noControl_compact table.toJson,
    distinct_datum_ofEntries entries, ?_⟩
  · rw [Table.text, document_compact_iff (by simp [noBlank]), datum_toJson]
  · intro other sameText
    apply Table.datum_injective
    have standsForOther := (stands other other.datum).mpr rfl
    rw [sameText] at standsForOther
    exact (stands table other.datum).mp standsForOther

/-- A table with an empty code, a quote, a backslash, a line feed, a null character and
characters that are not escaped, and the same table made with a template that is replaced. -/
theorem text_encodes_table_sample :
    let space := "a\"\\"
    let last : Entry := { space, code := "\u2028\x7f", template := "😀" }
    let entries : List Entry := [{ space, code := "", template := "\n\x00" }, last]
    let repeated : List Entry := { space, code := "", template := "replaced" } :: entries
    let text := "\x7b\"a\\\"\\\\\":\x7b\"\":\"\\n\\u0000\",\"\u2028\x7f\":\"😀\"\x7d\x7d"
    (Table.ofEntries entries).text = text ∧
      (∀ found, Document isBlank text.toList found ↔
        found = (Table.ofEntries entries).datum) ∧
      repeated ≠ entries ∧ Table.ofEntries repeated = Table.ofEntries entries := by
  intro space last entries repeated text
  have written : (Table.ofEntries entries).text = text := by decide +kernel
  have writtenAgain : (Table.ofEntries repeated).text = text := by decide +kernel
  obtain ⟨_, onlyDatum, _, _, onlyTable⟩ := text_encodes_table entries
  have same := onlyTable (Table.ofEntries repeated) (writtenAgain.trans written.symm)
  rw [written] at onlyDatum
  exact ⟨written, onlyDatum, by decide, same⟩

end Extraction
end ErrorTemplates
