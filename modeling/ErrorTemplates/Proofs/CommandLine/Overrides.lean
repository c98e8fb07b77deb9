import ErrorTemplates.CommandLine.Run
import ErrorTemplates.Proofs.CommandLine.Delivered
import ErrorTemplates.Proofs.CommandLine.Loading

/-!
# Options and the configuration file

An option means what the configuration file would mean if it had the value of the option, with
paths taken relative to the working directory. The two extractions have the same result, write
the same to the streams and leave the same files, apart from the configuration file itself.
-/

namespace ErrorTemplates
namespace CommandLine

open Files
open Extraction (Setup)
open Program (Language)
open Text (Measure)

/-! ## After the configuration is loaded -/

section
variable {m : Type -> Type} [Monad m] [Host m]

/-- Read the replacement, if there is one. -/
def readReplacement : Option Path -> ExceptT Failure m (Option String)
  | none => pure none
  | some path => some <$> attempt (.readReplacement path) (Host.readText (m := m) path)

/-- What an extraction works with when it has a replacement. -/
def settingsOf
    (options : ExtractOptions)
    (directory : Path)
    (loaded : Config.Loaded)
    (replacement : Option String) : Settings :=
  let config := overridden options loaded.config
  { naming := { factory := config.factory, suffix := config.suffix }
    replacement
    messages := messagesPath options directory loaded }

/-- Find out what an extraction works with, once the configuration is loaded. -/
def settingsWith (options : ExtractOptions) (directory : Path) (loaded : Config.Loaded) :
    ExceptT Failure m Settings :=
  match (overridden options loaded.config).validate with
  | .error reason => throw (.invalid reason)
  | .ok () =>
      settingsOf options directory loaded <$>
        readReplacement (replacementPath? options directory loaded)

variable [Measure] [Language]

/-- Extract templates, once it is known what an extraction works with. -/
def extractWith
    (inColour : Bool)
    (options : ExtractOptions)
    (directory : Path)
    (settings : Settings) : ExceptT Failure m Status := do
  let path := directory.join options.input.toList
  let text ← attempt (.readInput path) (Host.readText (m := m) path)
  match Setup.ofText settings.naming settings.replacement with
  | .error failure => throw (.replacement failure)
  | .ok setup => extractText inColour options directory settings.messages setup text

end

section
variable (options : ExtractOptions)

theorem settingsFor_eq (directory : Path) :
    settingsFor (m := StateM World) options directory = (do
      match ← liftM (Config.load (m := StateM World) directory) with
      | .error error => throw (.config error)
      | .ok loaded => settingsWith options directory loaded) := by
  rw [settingsFor]
  congr 1
  funext loaded?
  cases loaded? with
  | error => rfl
  | ok loaded =>
      simp only [settingsWith]
      cases (overridden options loaded.config).validate with
      | error => rfl
      | ok => cases replacementPath? options directory loaded <;> rfl

theorem extractTemplates_eq [Measure] [Language] (inColour : Bool) :
    extractTemplates (m := StateM World) inColour options = (do
      let directory ← attempt .directory (Host.currentDirectory (m := StateM World))
      let settings ← settingsFor options directory
      extractWith inColour options directory settings) := rfl

end

/-! ## The same configuration -/

/-- The options without those that a configuration can have. -/
def ExtractOptions.unconfigured (options : ExtractOptions) : ExtractOptions :=
  { options with messages := none, replacement := none, factory := none, suffix := none }

/-- A configuration with the values of the options. Their paths are taken relative to the
working directory. -/
def configured (options : ExtractOptions) (directory : Path) (config : Config) : Config :=
  let absolute (path : String) : String := String.ofList (directory.join path.toList)
  { factory := options.factory.getD config.factory
    suffix := options.suffix.getD config.suffix
    replacement := (options.replacement.map absolute).or config.replacement
    messages := (options.messages.map absolute).getD config.messages }

/-- Once it is known what an extraction works with, the other options do not matter. -/
theorem extractWith_unconfigured
    [Measure]
    [Language]
    (inColour : Bool)
    (options : ExtractOptions)
    (directory : Path) :
    extractWith (m := StateM World) inColour options.unconfigured directory =
      extractWith inColour options directory := by
  funext settings
  rfl

theorem join_of_isAbsolute
    {path : Path}
    (isAbsolute : path.isAbsolute = true)
    (base : Path) : base.join path = path := if_pos isAbsolute

/-- A path that is taken relative to an absolute one is absolute. -/
theorem isAbsolute_join
    {directory : Path}
    (isAbsolute : directory.isAbsolute = true)
    (path : Path) : (directory.join path).isAbsolute = true := by
  have isAbsolute_append (first second : Path) (absolute : first.isAbsolute = true) :
      Path.isAbsolute (first ++ second) = true := by
    cases first with
    | nil => simp [Path.isAbsolute] at absolute
    | cons character rest =>
        by_cases isSlash : character = '/' <;> simp_all [Path.isAbsolute]
  rw [Path.join]
  split
  · assumption
  · split <;> exact isAbsolute_append _ _ isAbsolute

/-- The path of a working directory is absolute. -/
theorem isAbsolute_pathOf (place : Place) : (World.pathOf place).isAbsolute = true := by
  cases place <;> rfl

section
variable {options : ExtractOptions} {directory : Path} (isAbsolute : directory.isAbsolute = true)
variable {loaded : Config.Loaded}
include isAbsolute

/-- The path of the replacement is the same. -/
theorem replacementPath?_configured :
    replacementPath? options.unconfigured directory
        { loaded with config := configured options directory loaded.config } =
      replacementPath? options directory loaded := by
  rw [replacementPath?, replacementPath?]
  cases given : options.replacement with
  | none =>
      cases configuredPath : loaded.config.replacement <;>
        simp [configured, ExtractOptions.unconfigured, given, configuredPath, Config.Loaded.resolve]
  | some path =>
      have absolute := isAbsolute_join isAbsolute path.toList
      simp [configured, ExtractOptions.unconfigured, given, Config.Loaded.resolve,
        join_of_isAbsolute absolute]

/-- The path of the table is the same. -/
theorem messagesPath_configured :
    messagesPath options.unconfigured directory
        { loaded with config := configured options directory loaded.config } =
      messagesPath options directory loaded := by
  rw [messagesPath, messagesPath]
  cases given : options.messages with
  | none => simp [configured, ExtractOptions.unconfigured, given, Config.Loaded.resolve]
  | some path =>
      have absolute := isAbsolute_join isAbsolute path.toList
      simp [configured, ExtractOptions.unconfigured, given, Config.Loaded.resolve,
        join_of_isAbsolute absolute]

end

/-! ### Valid configurations -/

theorem validate_eq_ok_iff (config : Config) :
    config.validate = .ok () ↔
      Text.isIdentifier config.factory = true ∧ Config.endsIdentifier config.suffix = true ∧
        config.messages.isEmpty = false := by
  rw [Config.validate, Config.invalid?]
  cases Text.isIdentifier config.factory <;> cases Config.endsIdentifier config.suffix <;>
    cases config.messages.isEmpty <;> simp

section
variable {options : ExtractOptions} {directory : Path} {config : Config}

/-- A configuration without paths of options is valid if it is with them. -/
theorem validate_overridden
    (valid : config.validate = .ok ())
    (alsoValid : (configured options directory config).validate = .ok ()) :
    (overridden options config).validate = .ok () := by
  obtain ⟨_, _, messages⟩ := (validate_eq_ok_iff config).mp valid
  obtain ⟨factory, suffix, _⟩ := (validate_eq_ok_iff _).mp alsoValid
  exact (validate_eq_ok_iff _).mpr ⟨factory, suffix, messages⟩

theorem overridden_configured :
    overridden options.unconfigured (configured options directory config) =
      configured options directory config := rfl

end

/-- What an extraction works with is the same. -/
theorem settingsWith_configured
    {options : ExtractOptions}
    {directory : Path}
    (isAbsolute : directory.isAbsolute = true)
    {loaded : Config.Loaded}
    (valid : loaded.config.validate = .ok ())
    (alsoValid : (configured options directory loaded.config).validate = .ok ()) :
    settingsWith (m := StateM World) options.unconfigured directory
        { loaded with config := configured options directory loaded.config } =
      settingsWith options directory loaded := by
  have overridesValid := validate_overridden valid alsoValid
  have sameSettings : settingsOf options.unconfigured directory
      { loaded with config := configured options directory loaded.config } =
        settingsOf options directory loaded := by
    funext replacement
    rw [settingsOf, settingsOf, messagesPath_configured isAbsolute]
    rfl
  simp only [settingsWith, overridden_configured, alsoValid, overridesValid, sameSettings,
    replacementPath?_configured isAbsolute]

/-! ## Two extractions -/

/-- The paths of the files that an extraction reads and writes. -/
def pathsOf (options : ExtractOptions) (directory : Path) (loaded : Config.Loaded) : List Path :=
  [directory.join options.input.toList, messagesPath options directory loaded] ++
    ((programPath? options directory).toList ++
      (replacementPath? options directory loaded).toList)

section
variable {directory place : Place} {content : ByteArray} {options : ExtractOptions}
variable {working : Path} {loaded : Config.Loaded}
variable (elsewhere : ∀ path ∈ pathsOf options working loaded, placeNamed directory path ≠ place)
include elsewhere

theorem disregards_extractWith
    [Measure]
    [Language]
    {settings : Settings}
    (messages_eq : settings.messages = messagesPath options working loaded)
    (inColour : Bool) :
    Disregards directory place content (extractWith inColour options working settings) := by
  have harmless := harmless_exchanged directory place content
  have inputElsewhere := elsewhere (working.join options.input.toList) (by simp [pathsOf])
  have messagesElsewhere : placeNamed directory settings.messages ≠ place :=
    elsewhere settings.messages (by simp [pathsOf, messages_eq])
  have outputElsewhere (output : String) (hasOutput : options.output = some output) :
      placeNamed directory (working.join output.toList) ≠ place :=
    elsewhere (working.join output.toList) (by simp [pathsOf, programPath?, hasOutput])
  refine keeps_bind (keeps_attempt (harmless.readText inputElsewhere) fun _ => trivial)
    fun text => ?_
  cases Setup.ofText settings.naming settings.replacement with
  | error failure => exact keeps_throw trivial
  | ok setup =>
      exact harmless.keeps_extractText (fun _ => trivial) (fun _ _ => trivial) outputElsewhere
        messagesElsewhere inColour setup text

/-- Once the configuration is loaded, an extraction does the same when its file has another
content. -/
theorem disregards_afterLoading [Measure] [Language] (inColour : Bool) :
    Disregards directory place content (do
      let settings ← settingsWith options working loaded
      extractWith inColour options working settings) := by
  rw [settingsWith]
  cases (overridden options loaded.config).validate with
  | error reason => exact keeps_throw_bind trivial _
  | ok =>
      simp only [bind_map_left]
      refine keeps_bind ?_ fun replacement => disregards_extractWith elsewhere rfl inColour
      cases given : replacementPath? options working loaded with
      | none => exact keeps_pure none
      | some path =>
          have pathElsewhere := elsewhere path (by simp [pathsOf, given])
          exact keeps_map (keeps_attempt (overlooks_readText pathElsewhere) fun _ => trivial)

end

/-! ### Whole extractions -/

/-- An extraction goes on with the configuration that is loaded. -/
theorem perform_extractTemplates_of_load
    [Measure]
    [Language]
    {world : World}
    {directory : Path}
    (current : World.pathOf world.directory = directory)
    {loaded : Config.Loaded}
    (loads : (Config.load (m := StateM World) directory).run world = (.ok loaded, world))
    (inColour : Bool)
    (options : ExtractOptions) :
    perform (extractTemplates inColour options) world =
      perform (do
        let settings ← settingsWith options directory loaded
        extractWith inColour options directory settings) world := by
  have run_current : (Host.currentDirectory (m := StateM World)).run world =
      (.ok directory, world) := by
    rw [← current]
    rfl
  rw [extractTemplates_eq, perform_bind, perform_attempt, run_current]
  simp only [settingsFor_eq]
  rw [perform_bind, perform_bind, perform_liftM, loads, perform_bind]

/-- What an extraction works with has the replacement that is read, if there is one. -/
theorem settings_of_settingsWith
    {world : World}
    {options : ExtractOptions}
    {directory : Path}
    {loaded : Config.Loaded}
    {settings : Settings}
    (resolved : (perform (settingsWith options directory loaded) world).1 = .ok settings) :
    settings = settingsOf options directory loaded
      ((replacementPath? options directory loaded).bind fun path =>
        (world.tree.readText world.directory path).toOption) := by
  rw [settingsWith] at resolved
  cases valid : (overridden options loaded.config).validate with
  | error reason => simp [valid] at resolved
  | ok =>
      simp only [valid, map_eq_pure_bind, perform_bind] at resolved
      cases given : replacementPath? options directory loaded with
      | none =>
          rw [given] at resolved
          exact (Except.ok.inj resolved).symm
      | some path =>
          have read : (Host.readText (m := StateM World) path).run world =
              (world.tree.readText world.directory path, world) := rfl
          simp only [given, readReplacement, map_eq_pure_bind, perform_bind, perform_attempt, read]
            at resolved
          rw [Option.bind_some]
          cases isText : world.tree.readText world.directory path with
          | error error => simp [isText] at resolved
          | ok text =>
              simp only [isText, perform_pure] at resolved
              exact (Except.ok.inj resolved).symm

/-- The end of a command line that asks for an extraction. -/
def finish : Except Failure Status × World -> UInt32 × World
  | (.error failure, after) => (fail (m := StateM World) failure).run after
  | (.ok status, after) => (status.exitCode, after)

/-- A command line that asks for an extraction does what the extraction does. -/
theorem run_of_read
    [Measure]
    [Language]
    {arguments : List String}
    {options : ExtractOptions}
    (reads : Request.read arguments = .ok (.extract options))
    (inColour : Bool)
    (world : World) :
    (run (m := StateM World) inColour arguments).run world =
      finish (perform (extractTemplates inColour options) world) := by
  rw [run, reads]
  simp only [Request.run]
  rw [StateT.run_bind, ← perform]
  rcases perform (extractTemplates inColour options) world with ⟨_ | _, _⟩ <;> rfl

/-- What is told of a failure does not depend on the content of a file. -/
theorem finish_exchanged
    (place : Place)
    (content : ByteArray)
    (done : Except Failure Status × World) :
    finish (done.1, done.2.exchanged place content) =
      ((finish done).1, (finish done).2.exchanged place content) := by
  obtain ⟨failure | status, after⟩ := done
  · simp only [finish, fail, StateT.run_bind, run_say_exchanged]
    rcases (Host.say (m := StateM World) .errors failure.text).run after with ⟨_ | _, _⟩ <;> rfl
  · rfl

/-- An extraction works with the values of its options, and with those of the configuration where
there are none. Paths of options are relative to the working directory, and paths of the
configuration are relative to the directory of its file. -/
structure WorksWith
    (options : ExtractOptions)
    (config : Config)
    (directory base : Path)
    (world : World)
    (settings : Settings) : Prop where
  factory_eq : settings.naming.factory = options.factory.getD config.factory
  suffix_eq : settings.naming.suffix = options.suffix.getD config.suffix
  messages_eq : settings.messages =
    (options.messages.map fun name => directory.join name.toList).getD
      (base.join config.messages.toList)
  replacement_eq : settings.replacement =
    ((options.replacement.map fun name => directory.join name.toList).or
      (config.replacement.map fun name => base.join name.toList)).bind fun path =>
        (world.tree.readText world.directory path).toOption

section
variable {options : ExtractOptions} {world : World} {path : Path} {loaded : Config.Loaded}
variable {text : String}
variable (found : ((Config.find (m := StateM World) (World.pathOf world.directory)).run world).1 =
  some path)
variable (loads : ((Config.load (m := StateM World) (World.pathOf world.directory)).run world).1 =
  .ok loaded)
include found loads

/-- What an extraction works with comes from its options and from the configuration file. -/
theorem worksWith_of_settingsFor
    {settings : Settings}
    (resolved : (perform (settingsFor options (World.pathOf world.directory)) world).1 =
      .ok settings) :
    WorksWith options loaded.config (World.pathOf world.directory)
      (path.parent?.getD (World.pathOf world.directory)) world settings := by
  rw [run_load found, run_loadFile] at loads
  obtain ⟨_, _, loaded_eq⟩ := eq_of_loadText loads
  rw [settingsFor_eq, perform_bind, perform_liftM, run_load found, run_loadFile] at resolved
  simp only at loads resolved
  rw [loads] at resolved
  obtain rfl := settings_of_settingsWith resolved
  have resolve_eq (name : String) : loaded.resolve name =
      (path.parent?.getD (World.pathOf world.directory)).join name.toList := by
    rw [Config.Loaded.resolve, loaded_eq]
  refine ⟨rfl, rfl, ?_, ?_⟩
  · simp only [settingsOf, messagesPath, resolve_eq]
    cases options.messages <;> rfl
  · simp only [settingsOf, replacementPath?, resolve_eq]
    cases options.replacement <;> cases loaded.config.replacement <;> rfl

variable (parses : Config.parse text =
  .ok (configured options (World.pathOf world.directory) loaded.config))
variable (valid :
  (configured options (World.pathOf world.directory) loaded.config).validate = .ok ())
variable (elsewhere : ∀ used ∈ pathsOf options (World.pathOf world.directory) loaded,
  placeNamed world.directory used ≠ placeNamed world.directory path)
include parses valid elsewhere

/-- The configuration file can have the values of the options instead. -/
theorem perform_extractTemplates_exchanged [Measure] [Language] (inColour : Bool) :
    perform (extractTemplates inColour options.unconfigured)
        (world.exchanged (placeNamed world.directory path) text.toUTF8) =
      ((perform (extractTemplates inColour options) world).1,
        (perform (extractTemplates inColour options) world).2.exchanged
          (placeNamed world.directory path) text.toUTF8) := by
  obtain ⟨situated, loadedValid, run_loads, run_loadsThen⟩ :=
    run_load_exchanged found loads parses valid
  have sameSettings :=
    settingsWith_configured (isAbsolute_pathOf world.directory) loadedValid valid
  have done_eq := perform_extractTemplates_of_load rfl run_loads inColour options
  have current : World.pathOf
      (world.exchanged (placeNamed world.directory path) text.toUTF8).directory =
        World.pathOf world.directory := rfl
  have doneThen_eq :=
    perform_extractTemplates_of_load current run_loadsThen inColour options.unconfigured
  have disregards :=
    (disregards_afterLoading elsewhere inColour).perform_eq text.toUTF8 situated
  rw [← done_eq] at disregards
  simp only [sameSettings, extractWith_unconfigured] at doneThen_eq
  exact doneThen_eq.trans disregards

end

/-- An extraction with options does the same as one without those that a configuration can have,
when the configuration file has their values instead: factory and suffix as they are, paths taken
relative to the working directory. The configuration with these values has to be valid, and none
of the paths that are read and written may name the configuration file. The results, the streams
and the files are the same, apart from the configuration file itself, and so is what becomes of
two command lines that ask for these extractions. An option always counts for more than the
configuration, whose own paths are relative to the directory of its file. -/
theorem options_mean_configuration
    [Measure]
    [Language]
    {options : ExtractOptions}
    {world : World}
    {path : Path}
    {loaded : Config.Loaded}
    {text : String}
    (found : ((Config.find (m := StateM World) (World.pathOf world.directory)).run world).1 =
      some path)
    (loads : ((Config.load (m := StateM World) (World.pathOf world.directory)).run world).1 =
      .ok loaded)
    (parses : Config.parse text =
      .ok (configured options (World.pathOf world.directory) loaded.config))
    (valid : (configured options (World.pathOf world.directory) loaded.config).validate = .ok ())
    (elsewhere : ∀ used ∈ pathsOf options (World.pathOf world.directory) loaded,
      placeNamed world.directory used ≠ placeNamed world.directory path)
    (inColour : Bool) :
    let exchange := World.exchanged (placeNamed world.directory path) text.toUTF8
    let done := perform (extractTemplates inColour options) world
    perform (extractTemplates inColour options.unconfigured) (exchange world) =
        (done.1, exchange done.2) ∧
      (∀ arguments others, Request.read arguments = .ok (.extract options) ->
        Request.read others = .ok (.extract options.unconfigured) ->
          let ended := (run (m := StateM World) inColour arguments).run world
          (run (m := StateM World) inColour others).run (exchange world) =
            (ended.1, exchange ended.2)) ∧
      ∀ settings,
        (perform (settingsFor options (World.pathOf world.directory)) world).1 = .ok settings ->
          WorksWith options loaded.config (World.pathOf world.directory)
            (path.parent?.getD (World.pathOf world.directory)) world settings := by
  have extracted :=
    perform_extractTemplates_exchanged found loads parses valid elsewhere inColour
  refine ⟨extracted, ?_, fun settings => worksWith_of_settingsFor found loads⟩
  intro arguments others reads readsOthers
  rw [run_of_read reads, run_of_read readsOthers, extracted]
  exact finish_exchanged _ _ _

deriving instance DecidableEq for Config.Loaded

/-- A world with an input and a replacement below the directory of a configuration file. -/
def configuredWorld : World :=
  { tree :=
      { entries :=
          [(["w".toList], .directory),
            (["w".toList, "app.js".toList], .file "fooErr('a', 'b');\n".toUTF8),
            (["w".toList, "min.js".toList], .file "function make() \x7b\x7d\n".toUTF8),
            ([".minerrrc.json".toList], .file "\x7b\"suffix\": \"Error\"\x7d".toUTF8)] }
    directory := ["w".toList] }

/-- An extraction from that world with all options that a configuration can have. -/
theorem options_mean_configuration_sample :
    let arguments :=
      ["extract", "app.js", "--messages", "out/table.json", "--replacement", "min.js",
        "--factory", "make", "--suffix", "Err"]
    let text := "\x7b\"factoryName\":\"make\",\"suffix\":\"Err\"," ++
      "\"replacement\":\"/w/min.js\",\"messagesOutput\":\"/w/out/table.json\"\x7d"
    let exchange := World.exchanged [".minerrrc.json".toList] text.toUTF8
    let ended := (run (m := StateM World) false arguments).run configuredWorld
    ended.1 = 0 ∧
      (run (m := StateM World) false ["extract", "app.js"]).run (exchange configuredWorld) =
        (ended.1, exchange ended.2) := by
  intro arguments text exchange ended
  let options :=
    { sampleOptions with
      messages := some "out/table.json"
      replacement := some "min.js"
      factory := some "make"
      suffix := some "Err" }
  let path : Path := "/.minerrrc.json".toList
  let loaded : Config.Loaded :=
    { config := { Config.default with suffix := "Error" }, base := "/".toList, fromFile := true }
  have ok_of_toOption {ε α : Type} {result : Except ε α} {value : α}
      (isSome : result.toOption = some value) : result = .ok value := by
    cases result <;> simp_all [Except.toOption]
  have found : ((Config.find (m := StateM World) "/w".toList).run configuredWorld).1 =
      some path := by
    decide +kernel
  have loads : ((Config.load (m := StateM World) "/w".toList).run configuredWorld).1 =
      .ok loaded :=
    ok_of_toOption (by decide +kernel)
  have parses : Config.parse text = .ok (configured options "/w".toList loaded.config) :=
    ok_of_toOption (by decide +kernel)
  have valid : (configured options "/w".toList loaded.config).validate = .ok () :=
    ok_of_toOption (by decide +kernel)
  have elsewhere : ∀ used ∈ pathsOf options "/w".toList loaded,
      placeNamed ["w".toList] used ≠ placeNamed ["w".toList] path := by
    decide +kernel
  have reads : Request.read arguments = .ok (.extract options) :=
    ok_of_toOption (by decide +kernel)
  have readsOthers : Request.read ["extract", "app.js"] = .ok (.extract sampleOptions) :=
    ok_of_toOption (by decide +kernel)
  obtain ⟨_, sameRun, _⟩ := options_mean_configuration found loads parses valid elsewhere false
  exact ⟨by decide +kernel, sameRun arguments ["extract", "app.js"] reads readsOthers⟩

end CommandLine
end ErrorTemplates
