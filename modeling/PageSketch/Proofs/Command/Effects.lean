import PageSketch.Proofs.Command.Steps
import PageSketch.Proofs.Generation.Decision

/-!
# What commands do to files

What a command delivers is told from the task and from what is there before: the texts of a command
that succeeds, with their paths. A command succeeds exactly when it delivers, and then it has saved
these texts and nothing else; a command that does not succeed leaves the files as they were.
-/

namespace PageSketch.Command

open World

/-- The options of a generation that was asked for on the command line. -/
def optionsFor (strict : Bool) : Options :=
  { Options.standard with validation := if strict then .strict else .lenient }

/-- A text with the path that was chosen for it, if one was. -/
def chosen (out : Option Path) (text : String) : List (Path × String) :=
  out.toList.map fun path => (path, text)

/-- Whether a task succeeds, given a settings file, and which texts it then delivers to which paths.
A generation delivers the sketch and the source of its outcome if that is a success. -/
inductive Delivers (client : Chat.Client) (files : FileTree) (current : Location) (path : Path) :
    Task → List (Path × String) → Prop
  | generate {text : String} {output : OutputChoice} {sketchOut : Option Path} {strict : Bool}
      {settings : Settings} {sketch : Sketch} {source : SketchSource}
      (loads : Settings.inFile files current path = .ok settings)
      (succeeds : (PageSketch.generate (optionsFor strict) client settings.forModel
        text).outcome.status = .success sketch source) :
      Delivers client files current path (.generate text output sketchOut strict)
        (chosen sketchOut sketch.toValue.pretty ++
          chosen output.out (Markup.source (sourceOptions output) (some sketch)))
  | compile {file : Path} {output : OutputChoice} {sketch : Sketch}
      (decodes : Sketch.inFile files current file = .ok sketch) :
      Delivers client files current path (.compile file output)
        (chosen output.out (Markup.source (sourceOptions output) (some sketch)))
  | validate {file : Path} {sketch : Sketch}
      (decodes : Sketch.inFile files current file = .ok sketch)
      (reportsNothing : sketch.violations = []) :
      Delivers client files current path (.validate file) []
  | setKey {name value : String} {settings : Settings} {key : SettingKey}
      (loads : Settings.inFile files current path = .ok settings) (known : keyOf? name = some key) :
      Delivers client files current path (.setKey name value)
        [(path, (settings.set key.name value).text)]
  | unsetKey {name old : String} {settings : Settings} {key : SettingKey}
      (loads : Settings.inFile files current path = .ok settings) (known : keyOf? name = some key)
      (present : settings.get? key.name = some old) :
      Delivers client files current path (.unsetKey name)
        [(path, (settings.erase key.name).text)]
  | unsetAbsent {name : String} {settings : Settings} {key : SettingKey}
      (loads : Settings.inFile files current path = .ok settings) (known : keyOf? name = some key)
      (absent : settings.get? key.name = none) :
      Delivers client files current path (.unsetKey name) []
  | showSettings {settings : Settings}
      (loads : Settings.inFile files current path = .ok settings) :
      Delivers client files current path .showSettings []

section

variable (directory : Option Path) (client : Chat.Client) {current : Location}
  {files files' : FileTree} {path : Path}

/-! ## Writing texts -/

/-- A source is saved at the path that was chosen, or printed. -/
theorem yields_emit {out : Option Path} {source : String}
    (h : files.saveAll current (chosen out source) = (.ok (), files')) :
    Yields current files (emit (World.host directory client) out source) (.ok ()) files' := by
  cases out with
  | none =>
    obtain ⟨-, rfl⟩ := Prod.mk.inj h
    exact yields_lift (yields_print directory client source)
  | some path =>
    obtain ⟨saved, hsave, hrest⟩ := FileTree.saveAll_cons_eq_ok_iff.mp h
    obtain ⟨-, rfl⟩ := Prod.mk.inj hrest
    exact yields_writeFile directory client hsave

/-- A sketch is saved at the path that was chosen for it. -/
theorem yields_writeSketch {out : Option Path} {sketch : Sketch}
    (h : files.saveAll current (chosen out sketch.toValue.pretty) = (.ok (), files')) :
    Yields current files (writeSketch (World.host directory client) out sketch) (.ok ()) files' := by
  cases out with
  | none =>
    obtain ⟨-, rfl⟩ := Prod.mk.inj h
    exact yields_return ()
  | some path =>
    obtain ⟨saved, hsave, hrest⟩ := FileTree.saveAll_cons_eq_ok_iff.mp h
    obtain ⟨-, rfl⟩ := Prod.mk.inj hrest
    exact yields_writeFile directory client hsave

/-- Settings are saved at the path of the settings file. -/
theorem yields_saveSettings {settings : Settings}
    (h : files.saveAll current [(path, settings.text)] = (.ok (), files')) :
    Yields current files (orFail .settings (settings.save (World.host directory client) path))
      (.ok ()) files' := by
  obtain ⟨saved, hsave, hrest⟩ := FileTree.saveAll_cons_eq_ok_iff.mp h
  obtain ⟨-, rfl⟩ := Prod.mk.inj hrest
  exact yields_orFail .settings (Settings.yields_save directory client hsave)

/-! ## Loading settings -/

/-- A command that loads the settings goes on with those in the file, or ends. -/
theorem yields_loadSettings {result : Except SettingsError Settings}
    (h : Settings.inFile files current path = result) :
    Yields current files (orFail .settings (Settings.load (World.host directory client) path))
      (result.mapError .settings) files := by
  rw [← h]
  exact yields_orFail .settings (Settings.yields_load directory client path)

/-- A command that reads a sketch goes on with the one in the file, or ends. -/
theorem yields_readSketch_of_inFile {file : Path} {result : Except Error Sketch}
    (h : Sketch.inFile files current file = result) :
    Yields current files (readSketch (World.host directory client) file) result files := by
  rw [← h]
  exact yields_readSketch directory client file

/-- A command that goes on with the settings and a key ends when the name means none. -/
theorem yields_unknownKey {α : Type} {name : String} {settings : Settings}
    {next : Settings → SettingKey → Act (StateM World) α}
    (loads : Settings.inFile files current path = .ok settings) (unknown : keyOf? name = none) :
    Yields current files (do
      let settings ← orFail .settings (Settings.load (World.host directory client) path)
      let key ← keyOf name
      next settings key) (.error (.unknownKey name)) files :=
  (yields_loadSettings directory client loads).andThen (yields_keyOf_none unknown).stop

/-! ## Commands that succeed -/

/-- A task that delivers succeeds, and has saved what it delivers. -/
theorem yields_runTask {task : Task} {writes : List (Path × String)}
    (h : Delivers client files current path task writes)
    (hsave : files.saveAll current writes = (.ok (), files')) :
    Yields current files (runTask (World.host directory client) path task) (.ok 0) files' := by
  cases h with
  | @generate text output sketchOut strict settings sketch source loads succeeds =>
    obtain ⟨saved, hsketch, hsource⟩ := FileTree.saveAll_append_eq_ok_iff.mp hsave
    rw [runTask, runGenerate]
    refine (yields_loadSettings directory client loads).andThen ?_
    refine (yields_lift (yields_carryOut directory client (optionsFor strict)
      settings.forModel text)).andThen ?_
    refine (yields_lift (yields_reportAll directory client _)).andThen ?_
    simp only [Outcome.sketch?, succeeds]
    refine (yields_writeSketch directory client hsketch).andThen ?_
    refine (yields_lift (yields_noteAll directory client _)).andThen ?_
    exact (yields_emit directory client hsource).andThen (yields_return 0)
  | @compile file output sketch decodes =>
    rw [runTask, runCompile]
    refine (yields_readSketch_of_inFile directory client decodes).andThen ?_
    refine (yields_lift (yields_noteAll directory client _)).andThen ?_
    exact (yields_emit directory client hsave).andThen (yields_return 0)
  | @validate file sketch decodes reportsNothing =>
    obtain ⟨-, rfl⟩ := Prod.mk.inj hsave
    rw [runTask, runValidate]
    refine (yields_readSketch_of_inFile directory client decodes).andThen ?_
    simp only [reportsNothing]
    exact (yields_lift (yields_print directory client _)).andThen (yields_return 0)
  | @setKey name value settings key loads known =>
    rw [runTask, runSet]
    refine (yields_loadSettings directory client loads).andThen ?_
    refine (yields_keyOf_some known).andThen ?_
    exact (yields_saveSettings directory client hsave).andThen (yields_return 0)
  | @unsetKey name old settings key loads known present =>
    rw [runTask, runUnset]
    refine (yields_loadSettings directory client loads).andThen ?_
    refine (yields_keyOf_some known).andThen ?_
    simp only [present]
    exact (yields_saveSettings directory client hsave).andThen (yields_return 0)
  | @unsetAbsent name settings key loads known absent =>
    obtain ⟨-, rfl⟩ := Prod.mk.inj hsave
    rw [runTask, runUnset]
    refine (yields_loadSettings directory client loads).andThen ?_
    refine (yields_keyOf_some known).andThen ?_
    simp only [absent]
    exact yields_return 0
  | @showSettings settings loads =>
    obtain ⟨-, rfl⟩ := Prod.mk.inj hsave
    rw [runTask, runShow]
    refine (yields_loadSettings directory client loads).andThen ?_
    exact (yields_lift (yields_printAll directory client _)).andThen (yields_return 0)

/-! ## Commands that do not succeed -/

/-- A task that does not deliver ends with another code than zero or with an error, and changes no
file. -/
theorem exists_yields_runTask {task : Task}
    (h : ∀ writes, ¬Delivers client files current path task writes) :
    ∃ result, result ≠ .ok 0 ∧
      Yields current files (runTask (World.host directory client) path task) result files := by
  cases task with
  | generate text output sketchOut strict =>
    rw [runTask, runGenerate]
    cases loads : Settings.inFile files current path with
    | error error => exact ⟨_, by simp, (yields_loadSettings directory client loads).stop⟩
    | ok settings =>
      refine ⟨.ok 1, by simp, (yields_loadSettings directory client loads).andThen ?_⟩
      refine (yields_lift (yields_carryOut directory client (optionsFor strict)
        settings.forModel text)).andThen ?_
      refine (yields_lift (yields_reportAll directory client _)).andThen ?_
      -- An outcome with a sketch would have been a success.
      have hsketch : (PageSketch.generate (optionsFor strict) client settings.forModel
          text).outcome.sketch? = none :=
        Outcome.sketch?_eq_none fun sketch source hsuccess => h _ (.generate loads hsuccess)
      simp only [hsketch]
      exact yields_return 1
  | compile file output =>
    rw [runTask, runCompile]
    cases decodes : Sketch.inFile files current file with
    | error error => exact ⟨_, by simp, (yields_readSketch_of_inFile directory client decodes).stop⟩
    | ok sketch => exact absurd (.compile decodes) (h _)
  | validate file =>
    rw [runTask, runValidate]
    cases decodes : Sketch.inFile files current file with
    | error error => exact ⟨_, by simp, (yields_readSketch_of_inFile directory client decodes).stop⟩
    | ok sketch =>
      cases hviolations : sketch.violations with
      | nil => exact absurd (.validate decodes hviolations) (h _)
      | cons violation rest =>
        refine ⟨.ok 1, by simp, (yields_readSketch_of_inFile directory client decodes).andThen ?_⟩
        simp only [hviolations]
        exact (yields_lift (yields_printAll directory client _)).andThen (yields_return 1)
  | setKey name value =>
    rw [runTask, runSet]
    cases loads : Settings.inFile files current path with
    | error error => exact ⟨_, by simp, (yields_loadSettings directory client loads).stop⟩
    | ok settings =>
      cases known : keyOf? name with
      | none => exact ⟨_, by simp, yields_unknownKey directory client loads known⟩
      | some key => exact absurd (.setKey loads known) (h _)
  | unsetKey name =>
    rw [runTask, runUnset]
    cases loads : Settings.inFile files current path with
    | error error => exact ⟨_, by simp, (yields_loadSettings directory client loads).stop⟩
    | ok settings =>
      cases known : keyOf? name with
      | none => exact ⟨_, by simp, yields_unknownKey directory client loads known⟩
      | some key =>
        cases hold : settings.get? key.name with
        | none => exact absurd (.unsetAbsent loads known hold) (h _)
        | some old => exact absurd (.unsetKey loads known hold) (h _)
  | showSettings =>
    rw [runTask, runShow]
    cases loads : Settings.inFile files current path with
    | error error => exact ⟨_, by simp, (yields_loadSettings directory client loads).stop⟩
    | ok settings => exact absurd (.showSettings loads) (h _)

/-! ## All commands -/

/-- Whether an invocation succeeds, and which texts it then delivers to which paths: there has to be a
place for the settings. -/
def InvocationDelivers (files : FileTree) (current : Location) (invocation : Invocation)
    (writes : List (Path × String)) : Prop :=
  ∃ path, settingsPath (World.host directory client) invocation = .ok path ∧
    Delivers client files current path invocation.task writes

/-- An invocation yields what its task does with the settings file. -/
theorem Yields.run_of_settingsPath {invocation : Invocation} {result : Except Error Nat}
    (hpath : settingsPath (World.host directory client) invocation = .ok path)
    (h : Yields current files (runTask (World.host directory client) path invocation.task) result
      files') :
    World.Yields current files (run (World.host directory client) invocation) result files' := by
  rw [run, hpath]
  exact h

/-- An invocation that delivers succeeds, and has saved what it delivers. -/
theorem yields_run {invocation : Invocation} {writes : List (Path × String)}
    (h : InvocationDelivers directory client files current invocation writes)
    (hsave : files.saveAll current writes = (.ok (), files')) :
    World.Yields current files (run (World.host directory client) invocation) (.ok 0) files' := by
  obtain ⟨path, hpath, hdelivers⟩ := h
  exact (yields_runTask directory client hdelivers hsave).run_of_settingsPath directory client hpath

/-- An invocation that does not deliver ends with another code than zero or with an error, and changes
no file. -/
theorem exists_yields_run {invocation : Invocation}
    (h : ∀ writes, ¬InvocationDelivers directory client files current invocation writes) :
    ∃ result, result ≠ .ok 0 ∧
      World.Yields current files (run (World.host directory client) invocation) result files := by
  cases hpath : settingsPath (World.host directory client) invocation with
  | error e =>
    rw [run, hpath]
    exact ⟨.error e, by simp, yields_pure _⟩
  | ok path =>
    obtain ⟨result, hresult, hyields⟩ := exists_yields_runTask directory client
      fun writes hdelivers => h writes ⟨path, hpath, hdelivers⟩
    exact ⟨result, hresult, hyields.run_of_settingsPath directory client hpath⟩

/-- A generation delivers when the settings are loaded and its outcome is a success. -/
theorem exists_delivers_generate_iff {text : String} {output : OutputChoice}
    {sketchOut : Option Path} {strict : Bool} :
    (∃ writes, Delivers client files current path (.generate text output sketchOut strict) writes) ↔
      ∃ settings sketch source, Settings.inFile files current path = .ok settings ∧
        (PageSketch.generate (optionsFor strict) client settings.forModel text).outcome.status =
          .success sketch source := by
  constructor
  · rintro ⟨writes, hdelivers⟩
    cases hdelivers with
    | generate loads succeeds => exact ⟨_, _, _, loads, succeeds⟩
  · rintro ⟨settings, sketch, source, loads, succeeds⟩
    exact ⟨_, .generate loads succeeds⟩

/-- A check delivers when the file has a sketch that breaks no rule. -/
theorem exists_delivers_validate_iff {file : Path} :
    (∃ writes, Delivers client files current path (.validate file) writes) ↔
      ∃ sketch, Sketch.inFile files current file = .ok sketch ∧ sketch.violations = [] := by
  constructor
  · rintro ⟨writes, hdelivers⟩
    cases hdelivers with
    | validate decodes reportsNothing => exact ⟨_, decodes, reportsNothing⟩
  · rintro ⟨sketch, decodes, reportsNothing⟩
    exact ⟨_, .validate decodes reportsNothing⟩

/-- Every invocation ends in one of two ways, when saving itself works: it succeeds and has saved what
it delivers, or it does not succeed, delivers nothing and leaves the files as they were. -/
theorem exists_run (invocation : Invocation) (world : World)
    (hsaves : ∀ writes,
      InvocationDelivers directory client world.files world.directory invocation writes →
        ∃ files, world.files.saveAll world.directory writes = (.ok (), files)) :
    ∃ result world',
      (run (World.host directory client) invocation).run world = pure (result, world') ∧
      ((result = .ok 0 ∧ ∃ writes,
          InvocationDelivers directory client world.files world.directory invocation writes ∧
          FileTree.SavedAll world.files world'.files world.directory writes) ∨
        (result ≠ .ok 0 ∧ world'.files = world.files ∧ ∀ writes,
          ¬InvocationDelivers directory client world.files world.directory invocation writes)) := by
  by_cases hdelivers : ∃ writes,
      InvocationDelivers directory client world.files world.directory invocation writes
  · obtain ⟨writes, hwrites⟩ := hdelivers
    obtain ⟨files, hsave⟩ := hsaves writes hwrites
    obtain ⟨emitted, hrun⟩ := yields_run directory client hwrites hsave world.emitted
    exact ⟨.ok 0, ⟨files, world.directory, emitted⟩, hrun,
      .inl ⟨rfl, writes, hwrites, FileTree.savedAll_of_saveAll hsave⟩⟩
  · have hnot := not_exists.mp hdelivers
    obtain ⟨result, hresult, hyields⟩ := exists_yields_run directory client hnot
    obtain ⟨emitted, hrun⟩ := hyields world.emitted
    exact ⟨result, ⟨world.files, world.directory, emitted⟩, hrun, .inr ⟨hresult, rfl, hnot⟩⟩

/-- A command that does not succeed changes nothing, and one that succeeds has saved what it delivers
and nothing else, when saving itself works. A generation with a settings file that can be loaded
succeeds when its outcome is a success, and a check when the file has a sketch that breaks no rule. -/
theorem run_changes_only_its_own (invocation : Invocation) (world : World)
    (hsaves : ∀ writes,
      InvocationDelivers directory client world.files world.directory invocation writes →
        ∃ files, world.files.saveAll world.directory writes = (.ok (), files)) :
    ∃ result world',
      (run (World.host directory client) invocation).run world = pure (result, world') ∧
      (result ≠ .ok 0 → world'.files = world.files) ∧
      (result = .ok 0 → ∃ writes,
        InvocationDelivers directory client world.files world.directory invocation writes ∧
        FileTree.SavedAll world.files world'.files world.directory writes) ∧
      (∀ path, settingsPath (World.host directory client) invocation = .ok path →
        (∀ text output sketchOut strict,
          invocation.task = .generate text output sketchOut strict →
          (result = .ok 0 ↔ ∃ settings sketch source,
            Settings.inFile world.files world.directory path = .ok settings ∧
            (PageSketch.generate (optionsFor strict) client settings.forModel
              text).outcome.status = .success sketch source)) ∧
        (∀ file, invocation.task = .validate file →
          (result = .ok 0 ↔ ∃ sketch,
            Sketch.inFile world.files world.directory file = .ok sketch ∧
            sketch.violations = []))) := by
  obtain ⟨result, world', hrun, hend⟩ := exists_run directory client invocation world hsaves
  refine ⟨result, world', hrun, ?_, ?_, fun path hpath => ?_⟩
  · intro hresult
    rcases hend with ⟨hok, -⟩ | ⟨-, hfiles, -⟩
    · exact absurd hok hresult
    · exact hfiles
  · intro hresult
    rcases hend with ⟨-, hsaved⟩ | ⟨hne, -, -⟩
    · exact hsaved
    · exact absurd hresult hne
  · -- The code is zero exactly when the task delivers.
    have hcode : result = .ok 0 ↔ ∃ writes,
        Delivers client world.files world.directory path invocation.task writes := by
      rcases hend with ⟨hok, writes, ⟨path', hpath', hdelivers⟩, -⟩ | ⟨hne, -, hnot⟩
      · obtain rfl := Except.ok.inj (hpath.symm.trans hpath')
        exact iff_of_true hok ⟨writes, hdelivers⟩
      · exact iff_of_false hne fun ⟨writes, hdelivers⟩ => hnot writes ⟨path, hpath, hdelivers⟩
    constructor
    · intro text output sketchOut strict htask
      rw [hcode, htask, exists_delivers_generate_iff]
    · intro file htask
      rw [hcode, htask, exists_delivers_validate_iff]

end

/-! ## A sample page for two files -/

/-- Whether a text is the path of a file in the working directory. -/
def IsPlainName (name : String) : Prop :=
  Path.names ⟨name⟩ = [name] ∧ Path.parentNames ⟨name⟩ = [] ∧
    Path.isAbsolute ⟨name⟩ = false ∧ Path.endsInSlash ⟨name⟩ = false ∧
    FileTree.pathFault? ⟨name⟩ = none ∧ FileTree.textFault? (Path.parentText ⟨name⟩) = none ∧
    name ≠ "." ∧ name ≠ ".." ∧ name.utf8ByteSize ≤ FileTree.longestName

/-- Names can be tested. -/
instance (name : String) : Decidable (IsPlainName name) := by
  unfold IsPlainName
  infer_instance

/-- A plain name leads into the root when that is the working directory. -/
theorem IsPlainName.place_eq {name : String} (h : IsPlainName name) (tree : FileTree) :
    tree.place [] ⟨name⟩ = .ok [name] := by
  obtain ⟨hnames, -, habsolute, -, -, -, hhere, habove, hlength⟩ := h
  rw [FileTree.place, hnames, FileTree.startOf, habsolute]
  simp [FileTree.follow, FileTree.step, hhere, habove, Nat.not_lt.mpr hlength]

/-- A file with a plain name can be saved when it is no directory. -/
theorem IsPlainName.save_eq {name : String} (h : IsPlainName name) {tree : FileTree}
    (hlookup : tree.lookup [name] ≠ some .directory) (contents : ByteArray) :
    tree.save [] ⟨name⟩ contents = (.ok (), tree.withEntry [name] (.file contents)) := by
  have hplace := h.place_eq tree
  obtain ⟨-, hparents, -, hslash, hpath, htext, -⟩ := h
  exact FileTree.save_of_place hpath htext hparents hslash hplace hlookup

/-- The names of the files of the samples are plain. -/
theorem isPlainName_samples :
    IsPlainName "sketch" ∧ IsPlainName "page" ∧ IsPlainName "settings" := by
  decide

/-- A machine without any file. -/
def bareWorld : World := ⟨⟨[]⟩, [], []⟩

/-- The sample page is asked for, as a sketch and as a source. -/
def sampleInvocation : Invocation :=
  ⟨some ⟨"settings"⟩, .generate "一个表单" ⟨some ⟨"page"⟩, false⟩ (some ⟨"sketch"⟩) true⟩

/-- Two files can be saved where there is none. -/
theorem exists_saveAll_bareWorld (sketch source : String) :
    ∃ files, bareWorld.files.saveAll bareWorld.directory
      [(⟨"sketch"⟩, sketch), (⟨"page"⟩, source)] = (.ok (), files) := by
  obtain ⟨hsketch, hpage, -⟩ := isPlainName_samples
  refine ⟨_, FileTree.saveAll_cons_eq_ok_iff.mpr ⟨_, hsketch.save_eq ?_ _,
    FileTree.saveAll_cons_eq_ok_iff.mpr ⟨_, hpage.save_eq ?_ _, rfl⟩⟩⟩
  · simp [bareWorld, FileTree.lookup]
  · simp [bareWorld, FileTree.lookup, FileTree.withEntry]

/-- Without a file there are no settings. -/
theorem inFile_bareWorld :
    Settings.inFile bareWorld.files bareWorld.directory ⟨"settings"⟩ = .ok .empty := by
  obtain ⟨-, -, hsettings⟩ := isPlainName_samples
  have hplace := hsettings.place_eq ⟨[]⟩
  obtain ⟨-, -, -, -, hpath, -⟩ := hsettings
  have hentry : (FileTree.mk []).entryOf [] ⟨"settings"⟩ = .error .notFound := by
    rw [FileTree.place] at hplace
    simp [FileTree.entryOf, hpath, hplace, FileTree.lookup]
  simp [Settings.inFile, FileTree.hasEntry, bareWorld, hentry]

/-- The sample page is saved as a sketch and as its source. -/
theorem run_changes_only_its_own_sample :
    let client : Chat.Client := ⟨"stub", fun _ _ => ⟨none, .ok "", []⟩⟩
    ∃ world', (run (World.host none client) sampleInvocation).run bareWorld =
        pure (.ok 0, world') ∧
      world'.files.readText [] ⟨"sketch"⟩ = .ok Sample.sketch.toValue.pretty ∧
      world'.files.readText [] ⟨"page"⟩ =
        .ok (Markup.source (sourceOptions ⟨some ⟨"page"⟩, false⟩) (some Sample.sketch)) := by
  intro client
  -- Whatever is delivered goes to the two files.
  have hsaves : ∀ writes, InvocationDelivers none client bareWorld.files bareWorld.directory
      sampleInvocation writes →
      ∃ files, bareWorld.files.saveAll bareWorld.directory writes = (.ok (), files) := by
    rintro writes ⟨path, -, hdelivers⟩
    cases hdelivers with
    | generate loads succeeds => exact exists_saveAll_bareWorld _ _
  obtain ⟨result, world', hrun, -, hsuccess, hcodes⟩ :=
    run_changes_only_its_own none client sampleInvocation bareWorld hsaves
  have hsample := (generate_endsWithoutKey (optionsFor true) client "一个表单"
    (show Settings.empty.forModel.apiKey = none by decide)).sample.mpr ⟨"一个".toList, [], by decide⟩
  obtain rfl : result = .ok 0 :=
    ((hcodes ⟨"settings"⟩ rfl).1 _ _ _ _ rfl).mpr ⟨_, _, _, inFile_bareWorld, hsample⟩
  refine ⟨world', hrun, ?_⟩
  obtain ⟨writes, ⟨path, hpath, hdelivers⟩, hsaved⟩ := hsuccess rfl
  obtain rfl := Except.ok.inj hpath
  cases hdelivers with
  | generate loads succeeds =>
    obtain rfl := Except.ok.inj (inFile_bareWorld.symm.trans loads)
    obtain ⟨rfl, rfl⟩ := Status.success.inj (hsample.symm.trans succeeds)
    obtain ⟨hsketchName, hpageName, -⟩ := isPlainName_samples
    have htexts := hsaved.texts (by
      simp [chosen, bareWorld, hsketchName.place_eq, hpageName.place_eq])
    exact ⟨htexts (⟨"sketch"⟩, _) List.mem_cons_self,
      htexts (⟨"page"⟩, _) (List.mem_cons_of_mem _ List.mem_cons_self)⟩

end PageSketch.Command
