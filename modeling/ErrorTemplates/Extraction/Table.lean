/-!
# Tables of templates

A table has the message templates by name space and code. Name spaces and codes stand in
the order in which they were first recorded; recording a pair again changes its template
and not its place.
-/

namespace ErrorTemplates
namespace Extraction

/-- A template with its name space and code. -/
structure Entry where
  /-- The name space. -/
  space : String
  /-- The code. -/
  code : String
  /-- The template. -/
  template : String
  deriving DecidableEq

/-- What recording an entry did. -/
inductive Recorded
  /-- The pair of name space and code was new. -/
  | added
  /-- The pair had a template, which was replaced. -/
  | updated
  deriving DecidableEq

/-- A name space with its templates. -/
structure Space where
  /-- The name. -/
  name : String
  /-- The codes and their templates. -/
  codes : List (String × String)
  deriving DecidableEq

/-- A table of templates. -/
structure Table where
  /-- The name spaces. -/
  spaces : List Space
  deriving DecidableEq

/-- The template of a code in a list of codes. -/
def lookup? (code : String) : List (String × String) -> Option String
  | [] => none
  | (found, template) :: rest => if found = code then some template else lookup? code rest

@[simp] theorem lookup?_nil (code : String) : lookup? code [] = none := rfl

/-- Give a code a template, in its place or at the end. -/
def put (code template : String) : List (String × String) -> List (String × String)
  | [] => [(code, template)]
  | (found, old) :: rest =>
      if found = code then (found, template) :: rest
      else (found, old) :: put code template rest

theorem lookup?_put (code template : String) (codes : List (String × String)) :
    lookup? code (put code template codes) = some template := by
  induction codes with
  | nil => simp [put, lookup?]
  | cons pair rest inductionHypothesis =>
      obtain ⟨found, old⟩ := pair
      by_cases same : found = code
      · simp [put, lookup?, same]
      · simpa [put, lookup?, same] using inductionHypothesis

theorem lookup?_put_of_ne
    (code other template : String)
    (different : other ≠ code)
    (codes : List (String × String)) :
    lookup? other (put code template codes) = lookup? other codes := by
  induction codes with
  | nil => simp [put, lookup?, Ne.symm different]
  | cons pair rest inductionHypothesis =>
      obtain ⟨found, old⟩ := pair
      by_cases same : found = code
      · subst same
        simp [put, lookup?, Ne.symm different]
      · simp only [put, same, if_false, lookup?, inductionHypothesis]

namespace Table

/-- The table without templates. -/
def empty : Table := { spaces := [] }

/-- The codes of a name space in a list of name spaces. -/
def codesIn (name : String) : List Space -> List (String × String)
  | [] => []
  | space :: rest => if space.name = name then space.codes else codesIn name rest

/-- Record an entry in a list of name spaces. -/
def record (entry : Entry) : List Space -> List Space
  | [] => [{ name := entry.space, codes := [(entry.code, entry.template)] }]
  | space :: rest =>
      if space.name = entry.space then
        { space with codes := put entry.code entry.template space.codes } :: rest
      else space :: record entry rest

/-- The template of a name space and a code. -/
def get? (table : Table) (space code : String) : Option String :=
  lookup? code (codesIn space table.spaces)

/-- Record an entry. -/
def insert (table : Table) (entry : Entry) : Table :=
  { spaces := record entry table.spaces }

/-- What recording an entry does to the table. -/
def outcome (table : Table) (entry : Entry) : Recorded :=
  match table.get? entry.space entry.code with
  | some _ => .updated
  | none => .added

/-- The name spaces in order. -/
def names (table : Table) : List String := table.spaces.map Space.name

/-- The number of templates in a list of name spaces. -/
def sizeOf : List Space -> Nat
  | [] => 0
  | space :: rest => space.codes.length + sizeOf rest

/-- The number of templates. -/
def size (table : Table) : Nat := sizeOf table.spaces

/-- The table has no name space. -/
def isEmpty (table : Table) : Bool := table.spaces.isEmpty

@[simp] theorem get?_empty (space code : String) : empty.get? space code = none := rfl

@[simp] theorem names_empty : empty.names = [] := rfl

@[simp] theorem size_empty : empty.size = 0 := rfl

end Table

end Extraction
end ErrorTemplates
