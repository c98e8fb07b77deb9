import ErrorTemplates.Files.Tree

/-!
# What stays in a file tree

To make a directory leaves everything where it is, and to write a file leaves everything but that
file where it is. All directories stay in both cases, so every path that leads somewhere still
leads to the same place. The parent of such a path leads to a directory.
-/

namespace ErrorTemplates
namespace Files
namespace Tree

/-! ## Entries -/

theorem find?_put (place other : Place) (entry : Entry) (entries : List (Place × Entry)) :
    find? other (put place entry entries) =
      if other = place then some entry else find? other entries := by
  induction entries with
  | nil => simp only [put, find?, eq_comm]
  | cons first rest inductionHypothesis =>
      obtain ⟨found, old⟩ := first
      rw [put]
      split <;> rw [find?, find?]
      · next isPlace =>
          subst isPlace
          simp only [eq_comm (a := found)]
          split <;> rfl
      · next notPlace =>
          rw [inductionHypothesis]
          split
          · next isFound => rw [if_neg (isFound ▸ notPlace)]
          · rfl

/-- An entry that is put at a place is there and nowhere else. -/
theorem entryAt_set
    {place : Place}
    (notRoot : place ≠ [])
    (tree : Tree)
    (entry : Entry)
    (other : Place) :
    Tree.entry? (tree.set place entry) other =
      if other = place then some entry else tree.entry? other := by
  by_cases isRoot : other = []
  · subst isRoot
    rw [if_neg notRoot.symm]
    rfl
  · simp only [ entry?, set, List.isEmpty_iff, isRoot, if_false]
    exact find?_put place other entry tree.entries

theorem entryAt_set_self
    {place : Place}
    (notRoot : place ≠ [])
    (tree : Tree)
    (entry : Entry) : Tree.entry? (tree.set place entry) place = some entry := by
  rw [entryAt_set notRoot, if_pos rfl]

theorem entryAt_set_of_ne
    {place other : Place}
    (notRoot : place ≠ [])
    (isOther : other ≠ place)
    (tree : Tree)
    (entry : Entry) : Tree.entry? (tree.set place entry) other = tree.entry? other := by
  rw [entryAt_set notRoot, if_neg isOther]

/-- What is not a directory is not the root. -/
theorem ne_root {tree : Tree} {place : Place} (notDirectory : tree.entry? place ≠ some .directory) :
    place ≠ [] := by
  rintro rfl
  exact notDirectory rfl

theorem obstacle?_eq_none_iff (tree : Tree) (place : Place) :
    tree.obstacle? place = none ↔ tree.entry? place = some .directory := by
  rw [obstacle?]
  split <;> simp_all

/-! ## Trees in which everything stays -/

/-- Everything in a tree is in another one too, but files at some places may have changed. -/
structure StaysBut (mayChange : Place -> Prop) (before after : Tree) : Prop where
  /-- All directories stay. -/
  directories : ∀ {place}, before.entry? place = some .directory ->
    after.entry? place = some .directory
  /-- All files stay files. -/
  files : ∀ {place content}, before.entry? place = some (.file content) ->
    ∃ contentThen, after.entry? place = some (.file contentThen)
  /-- What is at the other places stays. -/
  others : ∀ {place entry}, ¬ mayChange place -> before.entry? place = some entry ->
    after.entry? place = some entry

namespace StaysBut

variable {mayChange : Place -> Prop} {before middle after : Tree}

/-- What is put where nothing is leaves everything where it is. -/
theorem set_new
    {tree : Tree}
    {place : Place}
    (isNew : tree.entry? place = none)
    (mayChange : Place -> Prop)
    (entry : Entry) : StaysBut mayChange tree (tree.set place entry) := by
  have notDirectory : tree.entry? place ≠ some .directory := by simp [isNew]
  have notRoot := ne_root notDirectory
  have stays {other : Place} {found : Entry} (isThere : tree.entry? other = some found) :
      Tree.entry? (tree.set place entry) other = some found := by
    refine (entryAt_set_of_ne notRoot ?_ tree entry).trans isThere
    rintro rfl
    simp [isNew] at isThere
  exact ⟨stays, fun isFile => ⟨_, stays isFile⟩, fun _ => stays⟩

/-- A file that is put where no directory is leaves everything else where it is. -/
theorem set_file
    {tree : Tree}
    {place : Place}
    (notDirectory : tree.entry? place ≠ some .directory)
    (content : ByteArray) : StaysBut (· = place) tree (tree.set place (.file content)) := by
  have notRoot := ne_root notDirectory
  have isThere := entryAt_set_self notRoot tree (.file content)
  have elsewhere {other : Place} (isOther : other ≠ place) :=
    entryAt_set_of_ne notRoot isOther tree (.file content)
  refine ⟨fun {other} isDirectory => ?_, fun {other old} isFile => ?_,
    fun isOther found => (elsewhere isOther).trans found⟩
  · exact (elsewhere fun same => notDirectory (same ▸ isDirectory)).trans isDirectory
  · by_cases same : other = place
    · exact ⟨content, same ▸ isThere⟩
    · exact ⟨old, (elsewhere same).trans isFile⟩

end StaysBut

/-! ## Paths -/

/-- A path can only be followed from a directory. -/
theorem isDirectory_of_follow
    {tree : Tree}
    {target reached : Target}
    {parts : List (List Char)}
    (someParts : parts ≠ [])
    (leads : tree.follow target parts = .ok reached) :
    tree.entry? target.place = some .directory := by
  obtain ⟨part, rest, rfl⟩ := List.exists_cons_of_ne_nil someParts
  rw [follow] at leads
  split at leads
  · simp at leads
  · next noObstacle => exact (obstacle?_eq_none_iff tree _).mp noObstacle

/-- A path that leads somewhere leads there as long as all directories stay. -/
theorem follow_of_staysBut
    {mayChange : Place -> Prop}
    {before after : Tree}
    (stays : StaysBut mayChange before after)
    {target reached : Target}
    {parts : List (List Char)}
    (leads : before.follow target parts = .ok reached) :
    after.follow target parts = .ok reached := by
  induction parts generalizing target with
  | nil => exact leads
  | cons part rest inductionHypothesis =>
      have isDirectory := stays.directories (isDirectory_of_follow (List.cons_ne_nil _ _) leads)
      have noObstacle := (obstacle?_eq_none_iff after _).mpr isDirectory
      have beforeNoObstacle := (obstacle?_eq_none_iff before _).mpr
        (isDirectory_of_follow (List.cons_ne_nil _ _) leads)
      rw [follow, beforeNoObstacle] at leads
      rw [follow, noObstacle]
      simp only at leads ⊢
      split at leads
      · next isVoid => exact (if_pos isVoid).trans (inductionHypothesis leads)
      · next notVoid =>
          rw [if_neg notVoid]
          split at leads
          · next isUp => exact (if_pos isUp).trans (inductionHypothesis leads)
          · next notUp => exact (if_neg notUp).trans (inductionHypothesis leads)

/-- The beginning of the path, from which its parts are followed. -/
def start (directory : Place) (path : Path) : Target :=
  { place := if path.isAbsolute then [] else directory, endsInName := false }

/-- A target that ends in a name does so only if no slash follows. -/
def named (path : Path) (target : Target) : Target :=
  { target with endsInName := target.endsInName && path.getLast? != some '/' }

/-- A path leads where its parts lead, unless it is empty. -/
theorem resolve_eq
    {path : Path}
    (notEmpty : path ≠ [])
    (tree : Tree)
    (directory : Place) :
    tree.resolve directory path =
      named path <$> tree.follow (start directory path) (namedParts path) := by
  rw [resolve, if_neg (by simpa using notEmpty)]
  rfl

/-- A path that leads somewhere is not empty, and its parts lead there. -/
theorem follow_of_resolve
    {tree : Tree}
    {directory : Place}
    {path : Path}
    {reached : Target}
    (leads : tree.resolve directory path = .ok reached) :
    path ≠ [] ∧ ∃ target, tree.follow (start directory path) (namedParts path) = .ok target ∧
      named path target = reached := by
  have notEmpty : path ≠ [] := by
    rintro rfl
    simp [resolve] at leads
  rw [resolve_eq notEmpty] at leads
  cases followed : tree.follow (start directory path) (namedParts path) with
  | error error => rw [followed] at leads; cases leads
  | ok target =>
      rw [followed] at leads
      exact ⟨notEmpty, target, rfl, Except.ok.inj leads⟩

/-- A path that leads somewhere leads there as long as all directories stay. -/
theorem resolve_of_staysBut
    {mayChange : Place -> Prop}
    {before after : Tree}
    (stays : StaysBut mayChange before after)
    {directory : Place}
    {path : Path}
    {reached : Target}
    (leads : before.resolve directory path = .ok reached) :
    after.resolve directory path = .ok reached := by
  obtain ⟨notEmpty, target, followed, rfl⟩ := follow_of_resolve leads
  rw [resolve_eq notEmpty, follow_of_staysBut stays followed]
  rfl

/-! ## Files -/

/-- The place of the file to which a path leads by its name. -/
def file? (tree : Tree) (directory : Place) (path : Path) : Option Place :=
  match tree.resolve directory path with
  | .error _ => none
  | .ok target =>
      match tree.entry? target.place with
      | some (.file _) => if target.endsInName then some target.place else none
      | _ => none

theorem file?_eq_some_iff
    {tree : Tree}
    {directory : Place}
    {path : Path}
    {place : Place} :
    tree.file? directory path = some place ↔
      tree.resolve directory path = .ok { place, endsInName := true } ∧
        ∃ content, tree.entry? place = some (.file content) := by
  rw [file?]
  cases resolved : tree.resolve directory path with
  | error error => simp
  | ok target =>
      obtain ⟨found, endsInName⟩ := target
      cases isThere : tree.entry? found with
      | none => grind
      | some entry => cases entry <;> cases endsInName <;> grind

/-- A file can be created where the path leads by its name and no directory is. -/
theorem resolve_of_creatable
    {tree : Tree}
    {directory place : Place}
    {path : Path}
    (isCreatable : tree.creatable directory path = .ok place) :
    tree.resolve directory path = .ok { place, endsInName := true } ∧
      tree.entry? place ≠ some .directory := by
  rw [creatable] at isCreatable
  cases resolved : tree.resolve directory path with
  | error error => simp [resolved] at isCreatable
  | ok target =>
      obtain ⟨found, endsInName⟩ := target
      cases isThere : tree.entry? found with
      | none =>
          cases blocked : tree.obstacle? found.dropLast <;> cases endsInName <;> simp_all
      | some entry => cases entry <;> cases endsInName <;> simp_all

/-- A file that is created is where the path leads, and where no directory is. -/
theorem create_eq_ok
    {tree created : Tree}
    {directory place : Place}
    {path : Path}
    (isCreated : tree.create directory path = .ok (place, created)) :
    tree.resolve directory path = .ok { place, endsInName := true } ∧
      tree.entry? place ≠ some .directory ∧ created = tree.set place (.file .empty) := by
  rw [create] at isCreated
  cases isCreatable : tree.creatable directory path with
  | error error => rw [isCreatable] at isCreated; cases isCreated
  | ok found =>
      rw [isCreatable] at isCreated
      cases isCreated
      obtain ⟨resolved, notDirectory⟩ := resolve_of_creatable isCreatable
      exact ⟨resolved, notDirectory, rfl⟩

/-- Bytes are added to a file that is there. -/
theorem append_eq_ok
    {tree after : Tree}
    {place : Place}
    {bytes : List UInt8}
    (isAdded : tree.append place bytes = .ok after) :
    ∃ content, tree.entry? place = some (.file content) ∧
      after = tree.set place (.file (content ++ ⟨bytes.toArray⟩)) := by
  rw [append] at isAdded
  split at isAdded
  · next content isFile => exact ⟨content, isFile, (Except.ok.inj isAdded).symm⟩
  · cases isAdded
  · cases isAdded

/-! ## Directories -/

/-- To make a directory leaves everything where it is. -/
theorem staysBut_of_makeDirectory
    {tree after : Tree}
    {directory : Place}
    {path : Path}
    (isMade : tree.makeDirectory directory path = .ok after) :
    StaysBut (fun _ => False) tree after := by
  rw [makeDirectory] at isMade
  split at isMade
  · simp at isMade
  · split at isMade
    · simp at isMade
    · next isNew =>
        split at isMade
        · simp at isMade
        · obtain rfl := Except.ok.inj isMade
          exact StaysBut.set_new isNew _ _

end Tree
end Files
end ErrorTemplates
