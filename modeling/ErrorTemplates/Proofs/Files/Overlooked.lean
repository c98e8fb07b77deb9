import ErrorTemplates.Proofs.Files.Faithful
import ErrorTemplates.Proofs.Files.Places
import ErrorTemplates.Proofs.Files.Semantics

/-!
# Files that are overlooked

Where paths lead depends on what is at each place, but not on what is in the files. So an action
that neither reads nor writes a file does the same when that file has another content, and
leaves the content as it is.
-/

namespace ErrorTemplates
namespace Files

/-! ## Places that are named -/

/-- The place to which a part of a path leads from a place. -/
def stepTo (place : Place) (part : List Char) : Place :=
  if Path.isVoid part then place
  else if part = ['.', '.'] then place.dropLast
  else place ++ [part]

/-- The place that a path names, whether or not anything is there. -/
def placeNamed (directory : Place) (path : Path) : Place :=
  (Tree.namedParts path).foldl stepTo (if path.isAbsolute then [] else directory)

namespace Tree

/-- A path that leads somewhere leads to the place that it names. -/
theorem place_of_follow
    {tree : Tree}
    {target reached : Target}
    {parts : List (List Char)}
    (leads : tree.follow target parts = .ok reached) :
    reached.place = parts.foldl stepTo target.place := by
  induction parts generalizing target with
  | nil =>
      obtain rfl := Except.ok.inj leads
      rfl
  | cons part rest inductionHypothesis =>
      rw [follow] at leads
      rw [List.foldl_cons, stepTo]
      split at leads
      · simp at leads
      · split at leads
        · next isVoid => rw [if_pos isVoid, inductionHypothesis leads]
        · next notVoid =>
            rw [if_neg notVoid]
            split at leads
            · next isUp => rw [if_pos isUp, inductionHypothesis leads]
            · next notUp => rw [if_neg notUp, inductionHypothesis leads]

theorem place_of_resolve
    {tree : Tree}
    {directory : Place}
    {path : Path}
    {reached : Target}
    (leads : tree.resolve directory path = .ok reached) :
    reached.place = placeNamed directory path := by
  obtain ⟨_, target, followed, rfl⟩ := follow_of_resolve leads
  exact place_of_follow followed

/-! ## Another content -/

/-- There is a file at a place. -/
def IsFileAt (tree : Tree) (place : Place) : Prop :=
  ∃ content, tree.entry? place = some (.file content)

/-- Entries at different places can be put in any order if one of them is only exchanged. -/
theorem put_comm
    {place other : Place}
    {entries : List (Place × Entry)}
    (different : other ≠ place)
    (present : find? place entries ≠ none)
    (first second : Entry) :
    put other second (put place first entries) = put place first (put other second entries) := by
  induction entries with
  | nil => exact absurd rfl present
  | cons pair rest inductionHypothesis =>
      obtain ⟨found, old⟩ := pair
      by_cases isPlace : found = place
      · subst isPlace
        simp [put, Ne.symm different]
      · have presentThere : find? place rest ≠ none := by
          rwa [find?, if_neg isPlace] at present
        by_cases isOther : found = other
        · subst isOther
          simp [put, different]
        · simp only [put, if_neg isPlace, if_neg isOther, inductionHypothesis presentThere]

section
variable {tree : Tree} {place : Place} (isFile : tree.IsFileAt place)
include isFile

theorem IsFileAt.ne_root : place ≠ [] := by
  obtain ⟨content, isThere⟩ := isFile
  have notDirectory : tree.entry? place ≠ some .directory := by simp [isThere]
  exact Tree.ne_root notDirectory

theorem IsFileAt.find?_ne_none : find? place tree.entries ≠ none := by
  have notRoot := isFile.ne_root
  obtain ⟨content, isThere⟩ := isFile
  unfold entry? at isThere
  rw [if_neg (by simpa using notRoot)] at isThere
  simp [isThere]

/-- A file at a place stays there when something is put at another place. -/
theorem IsFileAt.set_of_ne
    {other : Place}
    (different : other ≠ place)
    (notRoot : other ≠ [])
    (entry : Entry) : IsFileAt (tree.set other entry) place := by
  obtain ⟨content, isThere⟩ := isFile
  exact ⟨content, (entryAt_set_of_ne notRoot (Ne.symm different) _ _).trans isThere⟩

variable (content : ByteArray)

theorem entryAt_exchanged_of_ne {other : Place} (different : other ≠ place) :
    Tree.entry? (tree.set place (.file content)) other = tree.entry? other :=
  entryAt_set_of_ne isFile.ne_root different tree (.file content)

/-- Whether a place can be passed does not depend on the content of a file. -/
theorem obstacle?_exchanged (other : Place) :
    Tree.obstacle? (tree.set place (.file content)) other = tree.obstacle? other := by
  by_cases isPlace : other = place
  · subst isPlace
    have notRoot := isFile.ne_root
    obtain ⟨old, isThere⟩ := isFile
    rw [obstacle?, obstacle?, entryAt_set notRoot, if_pos rfl, isThere]
  · rw [obstacle?, obstacle?, entryAt_exchanged_of_ne isFile content isPlace]

theorem follow_exchanged (target : Target) (parts : List (List Char)) :
    Tree.follow (tree.set place (.file content)) target parts = tree.follow target parts := by
  induction parts generalizing target with
  | nil => rfl
  | cons part rest inductionHypothesis =>
      rw [follow, follow, obstacle?_exchanged isFile]
      simp only [inductionHypothesis]

/-- Where a path leads does not depend on the content of a file. -/
theorem resolve_exchanged (directory : Place) (path : Path) :
    Tree.resolve (tree.set place (.file content)) directory path =
      tree.resolve directory path := by
  simp only [resolve, follow_exchanged isFile]

/-- What a path leads to is of the same kind. -/
theorem lookup_exchanged (directory : Place) (path : Path) :
    (∃ old, tree.lookup directory path = .ok (.file old) ∧
        Tree.lookup (tree.set place (.file content)) directory path = .ok (.file content)) ∨
      Tree.lookup (tree.set place (.file content)) directory path =
        tree.lookup directory path := by
  rw [lookup, lookup, resolve_exchanged isFile]
  cases tree.resolve directory path with
  | error => exact .inr rfl
  | ok target =>
      by_cases isPlace : target.place = place
      · have notRoot := isFile.ne_root
        obtain ⟨old, isThere⟩ := isFile
        simp only [isPlace, isThere, entryAt_set notRoot, if_true]
        cases target.endsInName with
        | true => exact .inl ⟨old, rfl, rfl⟩
        | false => exact .inr rfl
      · right
        simp only [entryAt_exchanged_of_ne isFile content isPlace]

theorem exists?_exchanged (directory : Place) (path : Path) :
    Tree.exists? (tree.set place (.file content)) directory path =
      tree.exists? directory path := by
  rw [exists?, exists?]
  rcases lookup_exchanged isFile content directory path with ⟨_, before, after⟩ | same
  · rw [before, after]
  · rw [same]

theorem isDirectory_exchanged (directory : Place) (path : Path) :
    Tree.isDirectory (tree.set place (.file content)) directory path =
      tree.isDirectory directory path := by
  rw [isDirectory, isDirectory]
  rcases lookup_exchanged isFile content directory path with ⟨_, before, after⟩ | same
  · rw [before, after]
  · rw [same]

/-- The text of another file is the same. -/
theorem readText_exchanged
    {directory : Place}
    {path : Path}
    (notNamed : placeNamed directory path ≠ place) :
    Tree.readText (tree.set place (.file content)) directory path =
      tree.readText directory path := by
  rw [readText, readText, lookup, lookup, resolve_exchanged isFile]
  cases resolved : tree.resolve directory path with
  | error => rfl
  | ok target =>
      have different : target.place ≠ place := place_of_resolve resolved ▸ notNamed
      simp only [entryAt_exchanged_of_ne isFile content different]

/-! ### Changes -/

/-- What is put at another place can be put there before or after the exchange. -/
theorem set_exchanged
    {other : Place}
    (different : other ≠ place)
    (entry : Entry) :
    Tree.set (tree.set place (.file content)) other entry =
      Tree.set (tree.set other entry) place (.file content) := by
  simp only [set, put_comm different isFile.find?_ne_none]

/-- To make a directory is the same with another content. -/
theorem makeDirectory_exchanged (directory : Place) (path : Path) :
    Tree.makeDirectory (tree.set place (.file content)) directory path =
      (fun after => Tree.set after place (.file content)) <$>
        tree.makeDirectory directory path := by
  rw [makeDirectory, makeDirectory, resolve_exchanged isFile]
  cases tree.resolve directory path with
  | error => rfl
  | ok target =>
      by_cases isPlace : target.place = place
      · have notRoot := isFile.ne_root
        obtain ⟨old, isThere⟩ := isFile
        simp only [isPlace, isThere, entryAt_set notRoot, if_true]
        rfl
      · simp only [entryAt_exchanged_of_ne isFile content isPlace, obstacle?_exchanged isFile,
          set_exchanged isFile content isPlace]
        cases tree.entry? target.place with
        | some => rfl
        | none => cases tree.obstacle? target.place.dropLast <;> rfl

section
variable {directory : Place} {path : Path} (notNamed : placeNamed directory path ≠ place)
include notNamed

theorem creatable_exchanged :
    Tree.creatable (tree.set place (.file content)) directory path =
      tree.creatable directory path := by
  rw [creatable, creatable, resolve_exchanged isFile]
  cases resolved : tree.resolve directory path with
  | error => rfl
  | ok target =>
      have different : target.place ≠ place := place_of_resolve resolved ▸ notNamed
      simp only [entryAt_exchanged_of_ne isFile content different, obstacle?_exchanged isFile]

/-- To create another file is the same with another content. -/
theorem create_exchanged :
    Tree.create (tree.set place (.file content)) directory path =
      (fun (created, after) => (created, Tree.set after place (.file content))) <$>
        tree.create directory path := by
  rw [create, create, creatable_exchanged isFile content notNamed]
  cases created : tree.creatable directory path with
  | error => rfl
  | ok other =>
      have isNamed : other = placeNamed directory path :=
        place_of_resolve (resolve_of_creatable created).1
      have different : other ≠ place := isNamed ▸ notNamed
      exact congrArg (fun after => Except.ok (other, after))
        (set_exchanged isFile content different _)

end

/-- To add to another file is the same with another content. -/
theorem append_exchanged {other : Place} (different : other ≠ place) (bytes : List UInt8) :
    Tree.append (tree.set place (.file content)) other bytes =
      (fun after => Tree.set after place (.file content)) <$> tree.append other bytes := by
  rw [append, append, entryAt_exchanged_of_ne isFile content different]
  rcases tree.entry? other with _ | _ | _
  · rfl
  · rfl
  · exact congrArg Except.ok (set_exchanged isFile content different _)

/-! ### The file stays -/

theorem IsFileAt.of_makeDirectory
    {directory : Place}
    {path : Path}
    {after : Tree}
    (isMade : tree.makeDirectory directory path = .ok after) : after.IsFileAt place := by
  obtain ⟨content, isThere⟩ := isFile
  exact ⟨content, (staysBut_of_makeDirectory isMade).others id isThere⟩

/-- Another file is created, and the file stays. -/
theorem IsFileAt.of_create
    {directory created : Place}
    {path : Path}
    {after : Tree}
    (notNamed : placeNamed directory path ≠ place)
    (isCreated : tree.create directory path = .ok (created, after)) :
    created ≠ place ∧ after.IsFileAt place := by
  obtain ⟨resolved, notDirectory, rfl⟩ := create_eq_ok isCreated
  have different : created ≠ place := by
    have isNamed : created = placeNamed directory path := place_of_resolve resolved
    rwa [isNamed]
  exact ⟨different, isFile.set_of_ne different (Tree.ne_root notDirectory) _⟩

theorem IsFileAt.of_append
    {other : Place}
    {bytes : List UInt8}
    {after : Tree}
    (different : other ≠ place)
    (isAdded : tree.append other bytes = .ok after) : after.IsFileAt place := by
  obtain ⟨old, isThere, rfl⟩ := append_eq_ok isAdded
  have notDirectory : tree.entry? other ≠ some .directory := by simp [isThere]
  exact isFile.set_of_ne different (Tree.ne_root notDirectory) _

end

/-! ### The file itself -/

section
variable {tree : Tree} {directory : Place} {path : Path} {text : String}
variable (isText : tree.readText directory path = .ok text)
include isText

/-- A path that has a text leads to a file by its name. -/
theorem exists_resolve_of_readText :
    ∃ target content, tree.resolve directory path = .ok target ∧ target.endsInName = true ∧
      tree.entry? target.place = some (.file content) := by
  rw [readText, lookup] at isText
  cases resolved : tree.resolve directory path with
  | error => simp [resolved] at isText
  | ok target =>
      rcases isThere : tree.entry? target.place with _ | _ | content
      · simp [resolved, isThere] at isText
      · simp [resolved, isThere] at isText
      · cases isName : target.endsInName with
        | false => simp [resolved, isThere, isName] at isText
        | true => exact ⟨target, content, rfl, isName, isThere⟩

theorem isFileAt_of_readText : tree.IsFileAt (placeNamed directory path) := by
  obtain ⟨_, content, resolved, _, isThere⟩ := exists_resolve_of_readText isText
  exact ⟨content, place_of_resolve resolved ▸ isThere⟩

/-- The path has the text that is put there instead. -/
theorem readText_exchanged_self (other : String) :
    Tree.readText (tree.set (placeNamed directory path) (.file other.toUTF8)) directory path =
      .ok other := by
  have isFile := isFileAt_of_readText isText
  obtain ⟨target, content, resolved, isName, isThere⟩ := exists_resolve_of_readText isText
  refine readText_eq_ok ?_
  rw [lookup, resolve_exchanged isFile, resolved]
  simp only [place_of_resolve resolved, entryAt_set isFile.ne_root, if_true, isName]

end

end Tree

/-! ## Actions on worlds -/

/-- The world in which the file at a place has another content. -/
def World.exchanged (place : Place) (content : ByteArray) (world : World) : World :=
  { world with tree := world.tree.set place (.file content) }

/-- A world with a working directory and a file at a place. -/
structure Situated (directory place : Place) (world : World) : Prop where
  /-- The working directory is the given one. -/
  directory_eq : world.directory = directory
  /-- There is a file at the place. -/
  isFile : world.tree.IsFileAt place

/-- Two worlds are the same, but in the other one the file at a place has another content. -/
inductive Exchanged (directory place : Place) (content : ByteArray) : World × World -> Prop
  | of {world : World} (situated : Situated directory place world) :
      Exchanged directory place content (world, world.exchanged place content)

theorem Exchanged.other_eq
    {directory place : Place}
    {content : ByteArray}
    {both : World × World}
    (exchanged : Exchanged directory place content both) :
    both.2 = both.1.exchanged place content := by
  cases exchanged
  rfl

/-- An action does the same when the file at a place has another content, and leaves that
content there. -/
abbrev Overlooks
    (directory place : Place)
    (content : ByteArray)
    (action : StateM World α) : Prop :=
  (Semantics.lockstep World).Preserves (Exchanged directory place content) action

section
variable {directory place : Place} {content : ByteArray} {α : Type}

/-- What an action does that overlooks the file. -/
theorem Overlooks.run_eq
    {action : StateM World α}
    (overlooks : Overlooks directory place content action)
    {world : World}
    (situated : Situated directory place world) :
    action.run (world.exchanged place content) =
      ((action.run world).1, (action.run world).2.exchanged place content) := by
  obtain ⟨same, exchanged⟩ := overlooks _ (.of situated)
  exact Prod.ext same exchanged.other_eq

/-- A question whose answer does not depend on the content is overlooked. -/
theorem overlooks_question
    {question : World -> α}
    (same : ∀ world, Situated directory place world ->
      question (world.exchanged place content) = question world) :
    Overlooks directory place content (fun world => (question world, world)) := by
  rintro _ ⟨situated⟩
  exact ⟨same _ situated, .of situated⟩

/-- A change of other files is overlooked. -/
theorem ends_change
    {operation : World -> Except OsError (α × World)}
    (isResult : α -> Prop)
    (same : ∀ world, Situated directory place world ->
      operation (world.exchanged place content) =
        (fun (result, after) => (result, after.exchanged place content)) <$> operation world)
    (stays : ∀ world result after, Situated directory place world ->
      operation world = .ok (result, after) ->
        isResult result ∧ Situated directory place after)
    {before : World × World}
    (exchanged : Exchanged directory place content before) :
    (Semantics.lockstep World).Ends (World.change operation) before fun result after =>
      Exchanged directory place content after ∧ ∀ value, result = .ok value -> isResult value := by
  obtain @⟨world, situated⟩ := exchanged
  have changed := same world situated
  change (World.change operation (world.exchanged place content)).1 =
      (World.change operation world).1 ∧
    Exchanged directory place content ((World.change operation world).2,
      (World.change operation (world.exchanged place content)).2) ∧
    ∀ value, (World.change operation world).1 = .ok value -> isResult value
  simp only [World.change, changed]
  cases result : operation world with
  | error => exact ⟨rfl, .of situated, by simp⟩
  | ok ended =>
      obtain ⟨isResult, situatedThen⟩ := stays world ended.1 ended.2 situated result
      refine ⟨rfl, .of situatedThen, fun value isValue => ?_⟩
      obtain rfl := Except.ok.inj isValue
      exact isResult

/-! ### The operations of a host -/

theorem overlooks_pathExists (path : Path) :
    Overlooks directory place content (Host.pathExists path) :=
  overlooks_question fun _ situated => Tree.exists?_exchanged situated.isFile content _ path

theorem overlooks_isDirectory (path : Path) :
    Overlooks directory place content (Host.isDirectory path) :=
  overlooks_question fun _ situated =>
    Tree.isDirectory_exchanged situated.isFile content _ path

theorem overlooks_readText {path : Path} (notNamed : placeNamed directory path ≠ place) :
    Overlooks directory place content (Host.readText path) := by
  refine overlooks_question fun _ situated => ?_
  refine Tree.readText_exchanged situated.isFile content ?_
  exact situated.directory_eq ▸ notNamed

theorem overlooks_makeDirectory (path : Path) :
    Overlooks directory place content (Host.makeDirectory path) := by
  intro before exchanged
  refine (Semantics.lockstep World).mono
    (ends_change (fun _ => True) (fun world situated => ?_)
      (fun world _ _ situated made => ?_) exchanged) fun _ _ ends => ends.1
  · rw [World.makeDirectory, World.makeDirectory, World.exchanged,
      Tree.makeDirectory_exchanged situated.isFile content]
    cases world.tree.makeDirectory world.directory path <;> rfl
  · obtain ⟨_, inTree, rfl⟩ := World.makeDirectory_eq_ok made
    exact ⟨trivial, situated.directory_eq, situated.isFile.of_makeDirectory inTree⟩

/-- A file that is created by another name is another file. -/
theorem ends_create
    {path : Path}
    (notNamed : placeNamed directory path ≠ place)
    {before : World × World}
    (exchanged : Exchanged directory place content before) :
    (Semantics.lockstep World).Ends (Host.create (m := StateM World) path) before
      fun result after => Exchanged directory place content after ∧
        ∀ opened, result = .ok opened -> opened ≠ place := by
  refine ends_change (fun opened => opened ≠ place) (fun world situated => ?_)
    (fun world opened _ situated created => ?_) exchanged
  · rw [World.create, World.create, World.exchanged, Tree.create_exchanged situated.isFile content
      (situated.directory_eq ▸ notNamed)]
    cases world.tree.create world.directory path <;> rfl
  · obtain ⟨_, inTree, rfl⟩ := World.create_eq_ok created
    obtain ⟨different, isFile⟩ :=
      situated.isFile.of_create (situated.directory_eq ▸ notNamed) inTree
    exact ⟨different, situated.directory_eq, isFile⟩

theorem overlooks_write {opened : Place} (different : opened ≠ place) (bytes : List UInt8) :
    Overlooks directory place content (Host.write (m := StateM World) opened bytes) := by
  intro before exchanged
  refine (Semantics.lockstep World).mono
    (ends_change (fun _ => True) (fun world situated => ?_)
      (fun world _ _ situated written => ?_) exchanged) fun _ _ ends => ends.1
  · rw [World.write, World.write, World.exchanged,
      Tree.append_exchanged situated.isFile content different]
    split
    · rfl
    · cases world.tree.append opened (fitting world.room bytes) <;> rfl
  · obtain ⟨_, inTree, _, rfl⟩ := World.write_eq_ok written
    exact ⟨trivial, situated.directory_eq, situated.isFile.of_append different inTree⟩

theorem run_say_exchanged (stream : Stream) (text : String) (world : World) :
    (Host.say (m := StateM World) stream text).run (world.exchanged place content) =
      (((Host.say (m := StateM World) stream text).run world).1,
        ((Host.say (m := StateM World) stream text).run world).2.exchanged place content) := by
  cases stream <;> rfl

theorem overlooks_say (stream : Stream) (text : String) :
    Overlooks directory place content (Host.say stream text) := by
  rintro _ ⟨situated⟩
  cases stream <;> exact ⟨rfl, .of ⟨situated.directory_eq, situated.isFile⟩⟩

theorem overlooks_elapsed : Overlooks directory place content Host.elapsed :=
  overlooks_question fun _ _ => rfl

end

end Files
end ErrorTemplates
