import ErrorTemplates.Proofs.CommandLine.Loading
import ErrorTemplates.Proofs.Files.Ancestors

/-!
# Which configuration applies

On the way up from a directory the first configuration file applies, unless the top of a
repository is passed before it. What is loaded comes from that file and from no other one: a file
that cannot be used is an error, and only where there is no file, what holds by default is loaded.
-/

namespace ErrorTemplates
namespace Config

open CommandLine Files Path

/-! ## The nearest file -/

/-- There is a configuration file in a directory. -/
def IsConfigured (world : World) (directory : Path) : Prop :=
  world.tree.exists? world.directory (directory.join fileName) = true

/-- A directory is the top of a repository. -/
def IsTop (world : World) (directory : Path) : Prop :=
  world.tree.exists? world.directory (directory.join repositoryMark) = true

/-- The first directory with a configuration file on the way up. No directory before it is the
top of a repository. -/
structure Nearest (world : World) (start : Path) (steps : Nat) (directory : Path) : Prop where
  isAncestor : ancestor? steps start = some directory
  isConfigured : IsConfigured world directory
  passed : ∀ fewer < steps, ∀ below, ancestor? fewer start = some below ->
    ¬IsConfigured world below ∧ ¬IsTop world below

section
variable {world : World} {start parent directory path : Path} {steps : Nat}

theorem nearest_here
    (isConfigured : IsConfigured world start) :
    Nearest world start steps directory ↔ steps = 0 ∧ directory = start := by
  constructor
  · intro nearest
    cases steps with
    | zero => exact ⟨rfl, (Option.some.inj nearest.isAncestor).symm⟩
    | succ steps =>
        exact absurd isConfigured (nearest.passed 0 (Nat.succ_pos steps) start rfl).1
  · rintro ⟨rfl, rfl⟩
    exact ⟨rfl, isConfigured, fun _ fewer => absurd fewer (Nat.not_lt_zero _)⟩

theorem not_nearest_zero
    (notConfigured : ¬IsConfigured world start) : ¬Nearest world start 0 directory := by
  intro nearest
  obtain rfl := Option.some.inj nearest.isAncestor
  exact notConfigured nearest.isConfigured

/-- Nothing applies beyond the top of a repository. -/
theorem not_nearest_of_isTop
    (notConfigured : ¬IsConfigured world start)
    (isTop : IsTop world start) : ¬Nearest world start steps directory := by
  cases steps with
  | zero => exact not_nearest_zero notConfigured
  | succ steps =>
      intro nearest
      exact (nearest.passed 0 (Nat.succ_pos steps) start rfl).2 isTop

/-- Nothing applies beyond the end of the path. -/
theorem not_nearest_of_end
    (notConfigured : ¬IsConfigured world start)
    (isEnd : start.parent? = none) : ¬Nearest world start steps directory := by
  cases steps with
  | zero => exact not_nearest_zero notConfigured
  | succ steps =>
      intro nearest
      simpa [ancestor?_succ_of_top isEnd] using nearest.isAncestor

/-- What applies to the parent applies to a directory that is not configured itself. -/
theorem nearest_succ
    (notConfigured : ¬IsConfigured world start)
    (notTop : ¬IsTop world start)
    (isParent : start.parent? = some parent) :
    Nearest world start (steps + 1) directory ↔ Nearest world parent steps directory := by
  constructor
  · rintro ⟨isAncestor, isConfigured, passed⟩
    rw [ancestor?_succ_of_parent? isParent] at isAncestor
    refine ⟨isAncestor, isConfigured, fun fewer isFewer below isBelow => ?_⟩
    refine passed (fewer + 1) (Nat.succ_lt_succ isFewer) below ?_
    rw [ancestor?_succ_of_parent? isParent, isBelow]
  · rintro ⟨isAncestor, isConfigured, passed⟩
    rw [← ancestor?_succ_of_parent? isParent] at isAncestor
    refine ⟨isAncestor, isConfigured, fun fewer isFewer below isBelow => ?_⟩
    cases fewer with
    | zero =>
        obtain rfl := Option.some.inj isBelow
        exact ⟨notConfigured, notTop⟩
    | succ fewer =>
        rw [ancestor?_succ_of_parent? isParent] at isBelow
        exact passed fewer (Nat.lt_of_succ_lt_succ isFewer) below isBelow

/-! ## The search -/

/-- One step of the search looks for the file first, then for the top of a repository. -/
theorem run_findFrom_succ (limit : Nat) (world : World) (start : Path) :
    ((findFrom (m := StateM World) (limit + 1) start).run world).1 =
      if world.tree.exists? world.directory (start.join fileName) then
        some (start.join fileName)
      else if world.tree.exists? world.directory (start.join repositoryMark) then none
      else
        match start.parent? with
        | none => none
        | some parent => ((findFrom (m := StateM World) limit parent).run world).1 := by
  have asked_bind {α : Type} (path : Path) (next : Bool -> StateM World α) :
      (Host.pathExists path >>= next).run world =
        (next (world.tree.exists? world.directory path)).run world := rfl
  rw [findFrom, asked_bind]
  split
  · rfl
  · rw [asked_bind]
    split
    · rfl
    · cases start.parent? <;> rfl

/-- The search finds the file of the nearest configured directory and nothing else. -/
theorem run_findFrom
    {limit : Nat}
    (enough : start.length < limit) :
    ((findFrom (m := StateM World) limit start).run world).1 = some path ↔
      ∃ steps directory, Nearest world start steps directory ∧ path = directory.join fileName := by
  induction limit generalizing start with
  | zero => exact absurd enough (Nat.not_lt_zero _)
  | succ limit inductionHypothesis =>
      rw [run_findFrom_succ]
      split
      · next isConfigured =>
          constructor
          · rintro found
            exact ⟨0, start, (nearest_here isConfigured).mpr ⟨rfl, rfl⟩,
              (Option.some.inj found).symm⟩
          · rintro ⟨steps, directory, nearest, rfl⟩
            rw [((nearest_here isConfigured).mp nearest).2]
      · next notConfigured =>
          split
          · next isTop =>
              refine iff_of_false (by simp) ?_
              rintro ⟨steps, directory, nearest, _⟩
              exact not_nearest_of_isTop notConfigured isTop nearest
          · next notTop =>
              cases isParent : start.parent? with
              | none =>
                  refine iff_of_false (by simp) ?_
                  rintro ⟨steps, directory, nearest, _⟩
                  exact not_nearest_of_end notConfigured isParent nearest
              | some parent =>
                  have shorter := length_lt_of_parent? isParent
                  refine (inductionHypothesis (by omega)).trans ?_
                  constructor
                  · rintro ⟨steps, directory, nearest, path_eq⟩
                    exact ⟨steps + 1, directory,
                      (nearest_succ notConfigured notTop isParent).mpr nearest, path_eq⟩
                  · rintro ⟨steps, directory, nearest, path_eq⟩
                    cases steps with
                    | zero => exact absurd nearest (not_nearest_zero notConfigured)
                    | succ steps =>
                        exact ⟨steps, directory,
                          (nearest_succ notConfigured notTop isParent).mp nearest, path_eq⟩

theorem run_find :
    ((find (m := StateM World) start).run world).1 = some path ↔
      ∃ steps directory, Nearest world start steps directory ∧ path = directory.join fileName :=
  run_findFrom (Nat.lt_succ_self _)

/-- Nothing is found where no directory on the way up is the nearest one. -/
theorem run_find_eq_none :
    ((find (m := StateM World) start).run world).1 = none ↔
      ∀ steps directory, ¬Nearest world start steps directory := by
  rw [Option.eq_none_iff_forall_ne_some]
  constructor
  · intro nothing steps directory nearest
    exact nothing _ (run_find.mpr ⟨steps, directory, nearest, rfl⟩)
  · intro nothing path found
    obtain ⟨steps, directory, nearest, _⟩ := run_find.mp found
    exact nothing steps directory nearest

/-! ## What is loaded -/

/-- Why the configuration file at a path cannot be used, by what was read there. -/
inductive Fails (path : Path) : Except OsError String -> LoadError -> Prop
  | unreadable (error : OsError) : Fails path (.error error) (.unreadable path error)
  | malformed {text : String} {fault : Json.Fault} (malformed : parse text = .error fault) :
      Fails path (.ok text) (.malformed path text fault)
  | invalid
      {text : String}
      {config : Config}
      {reason : Invalid}
      (parses : parse text = .ok config)
      (invalid : config.validate = .error reason) :
      Fails path (.ok text) (.invalid reason)

/-- The file is used if it is readable, has a configuration in it and this is valid. -/
theorem loadText_eq_ok
    {text? : Except OsError String}
    {loaded : Loaded} :
    loadText start path text? = .ok loaded ↔
      ∃ text config, text? = .ok text ∧ parse text = .ok config ∧ config.validate = .ok () ∧
        loaded = { config, base := path.parent?.getD start, fromFile := true } := by
  constructor
  · intro loads
    obtain ⟨⟨text, isText⟩, valid, loaded_eq⟩ := eq_of_loadText loads
    refine ⟨text, loaded.config, isText, ?_, valid, loaded_eq⟩
    subst isText
    cases parses : parse text with
    | error fault => simp [loadText, parses] at loads
    | ok config =>
        cases isValid : config.validate with
        | error reason => simp [loadText, parses, isValid] at loads
        | ok =>
            obtain rfl : _ = loaded := by simpa [loadText, parses, isValid] using loads
            rfl
  · rintro ⟨text, config, rfl, parses, valid, rfl⟩
    simp only [loadText, parses, valid]

theorem loadText_eq_error
    {text? : Except OsError String}
    {failure : LoadError} :
    loadText start path text? = .error failure ↔ Fails path text? failure := by
  constructor
  · intro fails
    cases text? with
    | error error =>
        obtain rfl : _ = failure := by simpa [loadText] using fails
        exact .unreadable error
    | ok text =>
        cases parses : parse text with
        | error fault =>
            obtain rfl : _ = failure := by simpa [loadText, parses] using fails
            exact .malformed parses
        | ok config =>
            cases valid : config.validate with
            | error reason =>
                obtain rfl : _ = failure := by simpa [loadText, parses, valid] using fails
                exact .invalid parses valid
            | ok => simp [loadText, parses, valid] at fails
  · rintro (error | malformed | ⟨parses, invalid⟩)
    · rfl
    · simp only [loadText, malformed]
    · simp only [loadText, parses, invalid]

/-- What holds by default is loaded where no file is found. -/
theorem run_load_of_none
    (nothing : ((find (m := StateM World) start).run world).1 = none) :
    (load (m := StateM World) start).run world =
      (.ok { config := default, base := start, fromFile := false }, world) := by
  have same : (find (m := StateM World) start).run world = (none, world) :=
    Prod.ext nothing (find_unchanged start world)
  rw [load, StateT.run_bind, same]
  rfl

/-- The file of the nearest directory is read, and nothing else. -/
theorem run_load_of_nearest
    (nearest : Nearest world start steps directory) :
    (load (m := StateM World) start).run world =
      (loadText start (directory.join fileName)
        (world.tree.readText world.directory (directory.join fileName)), world) := by
  rw [run_load (run_find.mpr ⟨steps, directory, nearest, rfl⟩), run_loadFile]

theorem validate_default : default.validate = .ok () := by
  have isValid : default.invalid? = none := by decide +kernel
  rw [validate, isValid]

/-- The directory of a configuration file is its parent. -/
theorem exists_parent?_join_fileName (directory : Path) :
    ∃ parent, (directory.join fileName).parent? = some parent ∧
      components parent = components directory := by
  have noSlash : fileName.all (· != '/') = true := by decide
  refine exists_parent?_join (fun character present => ?_) (by decide) directory
  exact bne_iff_ne.mp (List.all_eq_true.mp noSlash character present)

end

/-- The way up from a directory has an end, and the first configuration file on it is found unless
a directory before it is the top of a repository. Without such a file, what holds by default is
loaded. Otherwise the configuration in that file is loaded, with its directory for a base, if the
file is readable, has a configuration in it and this is valid, and loading fails if not. A
configuration that is loaded is valid. -/
theorem nearest_configuration_applies (world : World) (start : Path) :
    let found := (find (m := StateM World) start).run world
    let loaded := (load (m := StateM World) start).run world
    (∀ steps, start.length < steps -> ancestor? steps start = none) ∧
      (∀ path, found.1 = some path ↔
        ∃ steps directory, Nearest world start steps directory ∧
          path = directory.join fileName) ∧
      (loaded.1 = .ok { config := default, base := start, fromFile := false } ↔
        found.1 = none) ∧
      (∀ steps directory, Nearest world start steps directory ->
        let text? := world.tree.readText world.directory (directory.join fileName)
        ∃ base, components base = components directory ∧
          (∀ result, loaded.1 = .ok result ↔
            ∃ text config, text? = .ok text ∧ parse text = .ok config ∧
              config.validate = .ok () ∧ result = { config, base, fromFile := true }) ∧
          (∀ failure, loaded.1 = .error failure ↔
            Fails (directory.join fileName) text? failure)) ∧
      (∀ result, loaded.1 = .ok result -> result.config.validate = .ok ()) ∧
      found.2 = world ∧ loaded.2 = world := by
  intro found loaded
  have unchanged : found.2 = world := find_unchanged start world
  have fromNearest {steps : Nat} {directory : Path}
      (nearest : Nearest world start steps directory) :
      loaded = (loadText start (directory.join fileName)
        (world.tree.readText world.directory (directory.join fileName)), world) :=
    run_load_of_nearest nearest
  have fromNowhere (nothing : found.1 = none) :
      loaded = (.ok { config := default, base := start, fromFile := false }, world) :=
    run_load_of_none nothing
  refine ⟨fun steps => ancestor?_eq_none, fun path => run_find, ?_, ?_, ?_, unchanged, ?_⟩
  · refine ⟨fun isDefault => ?_, fun nothing => congrArg Prod.fst (fromNowhere nothing)⟩
    refine run_find_eq_none.mpr fun steps directory nearest => ?_
    rw [fromNearest nearest] at isDefault
    obtain ⟨_, _, _, _, _, isRead⟩ := loadText_eq_ok.mp isDefault
    exact Bool.false_ne_true (congrArg Loaded.fromFile isRead)
  · intro steps directory nearest text?
    obtain ⟨base, isParent, same⟩ := exists_parent?_join_fileName directory
    refine ⟨base, same, fun result => ?_, fun failure => ?_⟩
    · rw [fromNearest nearest, loadText_eq_ok, isParent]
      rfl
    · rw [fromNearest nearest, loadText_eq_error]
  · intro result isLoaded
    cases isFound : found.1 with
    | none =>
        rw [fromNowhere isFound] at isLoaded
        exact Except.ok.inj isLoaded ▸ validate_default
    | some path =>
        obtain ⟨steps, directory, nearest, _⟩ := run_find.mp isFound
        rw [fromNearest nearest] at isLoaded
        exact (eq_of_loadText isLoaded).2.1
  · cases isFound : found.1 with
    | none => rw [fromNowhere isFound]
    | some path =>
        obtain ⟨steps, directory, nearest, _⟩ := run_find.mp isFound
        rw [fromNearest nearest]

/-- A file in a directory with the mark of a repository still counts. -/
example :
    let world : World :=
      { tree :=
          { entries :=
              [([".minerrrc.json".toList], .file "\x7b\x7d".toUTF8),
                (["src".toList], .directory),
                (["src".toList, ".git".toList], .directory),
                (["src".toList, ".minerrrc.json".toList], .file "\x7b\x7d".toUTF8),
                (["src".toList, "lib".toList], .directory)] }
        directory := [] }
    ((find (m := StateM World) "src/.//lib/".toList).run world).1 =
      some "src/.minerrrc.json".toList := by
  decide +kernel

end Config
end ErrorTemplates
