import Mathlib.Logic.Function.Basic
import PageSketch.Proofs.Command.Effects
import PageSketch.Proofs.Command.Keys
import PageSketch.Proofs.Settings.Text

/-!
# The settings file as a map

A settings file holds a map from keys to texts: the empty one if the file is missing, and otherwise
the map of the object that its text spells. The commands about settings change this map and nothing
else: whatever is set and taken out, loading the file afterwards gives the map with these changes,
and a command that has nothing to change leaves every file as it was.
-/

namespace PageSketch

open Json (SpellsValue textObject)

/-! ## Maps -/

/-- Setting a text changes the map under its key. -/
theorem Settings.get?_set (settings : Settings) (key value : String) :
    (settings.set key value).get? = Function.update settings.get? key (some value) := by
  funext other
  by_cases h : other = key
  · simp [h]
  · rw [Settings.get?_set_of_ne settings h, Function.update_of_ne h]

/-- Taking a text out changes the map under its key. -/
theorem Settings.get?_erase (settings : Settings) (key : String) :
    (settings.erase key).get? = Function.update settings.get? key none := by
  funext other
  by_cases h : other = key
  · simp [h]
  · rw [Settings.get?_erase_of_ne settings h, Function.update_of_ne h]

/-! ## Files that hold settings -/

/-- Whether a settings file holds a map: it is missing and the map is empty, or its text is an object
of texts and the map has the last text of each key. -/
def Settings.Holds (files : FileTree) (current : Location) (path : Path)
    (map : String → Option String) : Prop :=
  files.hasEntry current path = .ok false ∧ (∀ key, map key = none) ∨
    ∃ text entries, files.readText current path = .ok text ∧
      SpellsValue text.toList (textObject entries) ∧ ∀ key, map key = lastAt? key entries

/-- Whether a file can be saved at a path. -/
def FileTree.Writable (files : FileTree) (current : Location) (path : Path) : Prop :=
  ∃ contents files', files.save current path contents = (.ok (), files')

section

variable {files files' : FileTree} {current : Location} {path : Path}

/-- A path with a text names something. -/
theorem FileTree.hasEntry_of_readText {text : String}
    (h : files.readText current path = .ok text) : files.hasEntry current path = .ok true := by
  rw [FileTree.readText] at h
  rw [FileTree.hasEntry]
  cases hentry : files.entryOf current path with
  | error fault => simp [hentry] at h
  | ok entry => rfl

/-- The settings that are loaded from a file are those that it holds. -/
theorem Settings.inFile_eq_ok_iff {settings : Settings} :
    Settings.inFile files current path = .ok settings ↔
      Settings.Holds files current path settings.get? := by
  constructor
  · intro h
    rw [Settings.inFile] at h
    split at h
    · cases h
    · rename_i hmissing
      obtain rfl := Except.ok.inj h
      exact .inl ⟨hmissing, fun key => rfl⟩
    · split at h
      · cases h
      · rename_i text htext
        split at h
        · cases h
        · rename_i found hread
          obtain rfl := Except.ok.inj h
          obtain ⟨entries, hspells, hget⟩ := Settings.read_eq_ok_iff.mp hread
          exact .inr ⟨text, entries, htext, hspells, hget⟩
  · rintro (⟨hmissing, hempty⟩ | ⟨text, entries, htext, hspells, hget⟩)
    · obtain rfl : Settings.empty = settings := Settings.ext_get? fun key => (hempty key).symm
      simp only [Settings.inFile, hmissing]
    · simp only [Settings.inFile, FileTree.hasEntry_of_readText htext, htext,
        Settings.read_eq_ok_iff.mpr ⟨entries, hspells, hget⟩]

/-- A map that a file holds is that of settings which are loaded from it. -/
theorem Settings.Holds.exists_inFile {map : String → Option String}
    (h : Settings.Holds files current path map) :
    ∃ settings, Settings.inFile files current path = .ok settings ∧ settings.get? = map := by
  obtain ⟨settings, hget⟩ : ∃ settings : Settings, settings.get? = map := by
    rcases h with ⟨-, hempty⟩ | ⟨text, entries, -, -, hmap⟩
    · exact ⟨.empty, funext fun key => (hempty key).symm⟩
    · exact ⟨.ofList entries, funext fun key => by rw [Settings.get?_ofList, hmap]⟩
  exact ⟨settings, Settings.inFile_eq_ok_iff.mpr (hget ▸ h), hget⟩

/-- A file that holds no map is not loaded. -/
theorem Settings.exists_inFile_eq_error (h : ∀ map, ¬Settings.Holds files current path map) :
    ∃ error, Settings.inFile files current path = .error error := by
  cases hload : Settings.inFile files current path with
  | error error => exact ⟨error, rfl⟩
  | ok settings => exact absurd (Settings.inFile_eq_ok_iff.mp hload) (h _)

/-- Settings that are saved are loaded again, and others can be saved in their place. -/
theorem FileTree.Writable.exists_saveAll (h : files.Writable current path) (settings : Settings) :
    ∃ files', files.saveAll current [(path, settings.text)] = (.ok (), files') ∧
      Settings.inFile files' current path = .ok settings ∧ files'.Writable current path := by
  obtain ⟨files', hsave⟩ := (FileTree.exists_save_iff files current path _ settings.text.toUTF8).mp
    h.choose_spec
  obtain ⟨location, hsaved⟩ := FileTree.exists_saved hsave
  refine ⟨files', FileTree.saveAll_cons_eq_ok_iff.mpr ⟨files', hsave, rfl⟩, ?_, _,
    hsaved.save_again .empty⟩
  simp only [Settings.inFile, hsaved.hasEntry_eq, hsaved.readText_eq, Settings.read_text]

end

namespace Command

/-! ## What the commands ask for -/

/-- Whether a task is about the settings and nothing else. -/
inductive Task.IsAboutSettings : Task → Prop
  | setKey (name value : String) : IsAboutSettings (.setKey name value)
  | unsetKey (name : String) : IsAboutSettings (.unsetKey name)
  | showSettings : IsAboutSettings .showSettings

/-- The map with another text under the key that a name means, or without one; other names change
nothing. -/
def changed (map : String → Option String) (name : String) (value : Option String) :
    String → Option String :=
  (keyOf? name).elim map fun key => Function.update map key.name value

/-- The map after a task. -/
def Task.apply (map : String → Option String) : Task → String → Option String
  | .setKey name value => changed map name (some value)
  | .unsetKey name => changed map name none
  | _ => map

/-- What a command with a key ends with. -/
def answerTo (name : String) : Except Error Nat :=
  (keyOf? name).elim (.error (.unknownKey name)) fun _ => .ok 0

/-- The map changes under a known key. -/
theorem changed_of_keyOf? {name : String} {key : SettingKey} (h : keyOf? name = some key)
    (map : String → Option String) (value : Option String) :
    changed map name value = Function.update map key.name value := by
  rw [changed, h, Option.elim_some]

/-- The map does not change under another name. -/
theorem changed_of_unknown {name : String} (h : keyOf? name = none)
    (map : String → Option String) (value : Option String) : changed map name value = map := by
  rw [changed, h, Option.elim_none]

/-- The keys that are not known keep their texts. -/
theorem changed_of_ne {key : String} (h : ∀ known : SettingKey, key ≠ known.name)
    (map : String → Option String) (name : String) (value : Option String) :
    changed map name value key = map key := by
  cases hkey : keyOf? name with
  | none => rw [changed_of_unknown hkey]
  | some known => rw [changed_of_keyOf? hkey, Function.update_of_ne (h known)]

/-- What a task about settings ends with, if the settings are loaded and saved. -/
def Task.answer : Task → Except Error Nat
  | .setKey name _ => answerTo name
  | .unsetKey name => answerTo name
  | _ => .ok 0

/-- Whether a task about settings has nothing to change: it shows the settings, takes out what is not
there, names no key, or meets a file that holds no settings. -/
inductive ChangesNothing (files : FileTree) (current : Location) (path : Path) : Task → Prop
  | showSettings : ChangesNothing files current path .showSettings
  | unsetAbsent {map : String → Option String} {key : SettingKey} {name : String}
      (holds : Settings.Holds files current path map) (spelled : key.Spelled name)
      (absent : map key.name = none) : ChangesNothing files current path (.unsetKey name)
  | setUnknown {name value : String} (unknown : ∀ key : SettingKey, ¬key.Spelled name) :
      ChangesNothing files current path (.setKey name value)
  | unsetUnknown {name : String} (unknown : ∀ key : SettingKey, ¬key.Spelled name) :
      ChangesNothing files current path (.unsetKey name)
  | unusable {task : Task} (aboutSettings : task.IsAboutSettings)
      (unusable : ∀ map, ¬Settings.Holds files current path map) :
      ChangesNothing files current path task

section

variable (directory : Option Path) (client : Chat.Client) {current : Location}
  {files files' : FileTree} {path : Path} {map : String → Option String}

/-! ## Commands that change nothing -/

/-- A task that has nothing to change delivers nothing. -/
theorem ChangesNothing.writes_eq_nil {task : Task} {writes : List (Path × String)}
    (h : ChangesNothing files current path task)
    (hdelivers : Delivers client files current path task writes) : writes = [] := by
  cases h with
  | showSettings =>
    cases hdelivers
    rfl
  | @unsetAbsent map key name holds spelled absent =>
    cases hdelivers with
    | unsetAbsent => rfl
    | unsetKey loads known present =>
      -- The settings that are loaded are the map, which has nothing under the key.
      obtain ⟨settings, hloads, rfl⟩ := holds.exists_inFile
      obtain rfl := Except.ok.inj (hloads.symm.trans loads)
      obtain rfl := Option.some.inj (known.symm.trans (keyOf?_eq_some_iff.mpr spelled))
      rw [absent] at present
      cases present
  | setUnknown unknown =>
    cases hdelivers with
    | setKey loads known => exact absurd (keyOf?_eq_some_iff.mp known) (unknown _)
  | unsetUnknown unknown =>
    cases hdelivers with
    | unsetKey loads known => exact absurd (keyOf?_eq_some_iff.mp known) (unknown _)
    | unsetAbsent => rfl
  | unusable aboutSettings unusable =>
    obtain ⟨error, herror⟩ := Settings.exists_inFile_eq_error unusable
    cases aboutSettings <;> cases hdelivers <;> simp_all

/-- A task that has nothing to change leaves every file as it was. -/
theorem ChangesNothing.exists_yields_runTask {task : Task}
    (h : ChangesNothing files current path task) :
    ∃ result, Yields current files (runTask (World.host directory client) path task) result
      files := by
  by_cases hdelivers : ∃ writes, Delivers client files current path task writes
  · obtain ⟨writes, hwrites⟩ := hdelivers
    obtain rfl := h.writes_eq_nil client hwrites
    exact ⟨.ok 0, yields_runTask directory client hwrites rfl⟩
  · obtain ⟨result, -, hyields⟩ :=
      Command.exists_yields_runTask directory client (not_exists.mp hdelivers)
    exact ⟨result, hyields⟩

/-! ## One command -/

/-- A command about settings changes the map that the file holds as it is asked to, and others can
follow it. -/
theorem exists_yields_apply {task : Task} (htask : task.IsAboutSettings)
    (hholds : Settings.Holds files current path map) (hwritable : files.Writable current path) :
    ∃ files', Yields current files (runTask (World.host directory client) path task) task.answer
        files' ∧
      Settings.Holds files' current path (task.apply map) ∧ files'.Writable current path := by
  obtain ⟨settings, hloads, rfl⟩ := hholds.exists_inFile
  -- What is delivered is loaded again afterwards.
  have hdelivers : ∀ next : Settings,
      Delivers client files current path task [(path, next.text)] →
      ∃ files', Yields current files (runTask (World.host directory client) path task) (.ok 0)
          files' ∧
        Settings.Holds files' current path next.get? ∧ files'.Writable current path := by
    intro next hdelivers
    obtain ⟨files', hsave, hnext, hwritable'⟩ := hwritable.exists_saveAll next
    exact ⟨files', yields_runTask directory client hdelivers hsave,
      Settings.inFile_eq_ok_iff.mp hnext, hwritable'⟩
  cases htask with
  | setKey name value =>
    simp only [Task.apply, Task.answer, answerTo]
    cases hkey : keyOf? name with
    | none =>
      rw [changed_of_unknown hkey]
      exact ⟨files, yields_unknownKey directory client hloads hkey, hholds, hwritable⟩
    | some key =>
      rw [changed_of_keyOf? hkey, ← Settings.get?_set]
      exact hdelivers _ (.setKey hloads hkey)
  | unsetKey name =>
    simp only [Task.apply, Task.answer, answerTo]
    cases hkey : keyOf? name with
    | none =>
      rw [changed_of_unknown hkey]
      exact ⟨files, yields_unknownKey directory client hloads hkey, hholds, hwritable⟩
    | some key =>
      rw [changed_of_keyOf? hkey]
      cases hold : settings.get? key.name with
      | some old =>
        rw [← Settings.get?_erase]
        exact hdelivers _ (.unsetKey hloads hkey hold)
      | none =>
        rw [← hold, Function.update_eq_self]
        exact ⟨files, yields_runTask directory client (.unsetAbsent hloads hkey hold) rfl, hholds,
          hwritable⟩
  | showSettings =>
    exact ⟨files, yields_runTask directory client (.showSettings hloads) rfl, hholds, hwritable⟩

/-! ## Any number of commands -/

/-- Whether an invocation is about the settings in a file. -/
def Invocation.IsAboutSettingsIn (invocation : Invocation) (path : Path) : Prop :=
  settingsPath (World.host directory client) invocation = .ok path ∧
    invocation.task.IsAboutSettings

/-- The map after invocations, one after another. -/
def mapAfter (map : String → Option String) (invocations : List Invocation) :
    String → Option String :=
  invocations.foldl (fun map invocation => invocation.task.apply map) map

/-- Whatever is done, the keys that are not known keep their texts. -/
theorem mapAfter_of_ne {key : String} (h : ∀ known : SettingKey, key ≠ known.name)
    (map : String → Option String) (invocations : List Invocation) :
    mapAfter map invocations key = map key := by
  induction invocations generalizing map with
  | nil => rfl
  | cons invocation rest ih =>
    rw [mapAfter, List.foldl_cons, ← mapAfter, ih]
    cases invocation.task with
    | setKey name value => exact changed_of_ne h map name _
    | unsetKey name => exact changed_of_ne h map name _
    | generate | compile | validate | showSettings => rfl

/-- Commands about settings change the map that the file holds as they are asked to, one after
another. -/
theorem exists_yields_mapAfter {invocations : List Invocation}
    (hinvocations : ∀ invocation ∈ invocations,
      invocation.IsAboutSettingsIn directory client path)
    (hholds : Settings.Holds files current path map) (hwritable : files.Writable current path) :
    ∃ files', World.Yields current files (invocations.mapM (run (World.host directory client)))
        (invocations.map fun invocation => invocation.task.answer) files' ∧
      Settings.Holds files' current path (mapAfter map invocations) := by
  induction invocations generalizing files map with
  | nil => exact ⟨files, World.yields_pure [], hholds⟩
  | cons invocation rest ih =>
    obtain ⟨⟨hpath, htask⟩, hrest⟩ := List.forall_mem_cons.mp hinvocations
    obtain ⟨files', hyields, hholds', hwritable'⟩ :=
      exists_yields_apply directory client htask hholds hwritable
    obtain ⟨files'', hyields', hholds''⟩ := ih hrest hholds' hwritable'
    refine ⟨files'', ?_, hholds''⟩
    rw [List.mapM_cons]
    exact (hyields.run_of_settingsPath directory client hpath).bind
      (hyields'.bind (World.yields_pure _))

/-- The settings file is a map under the commands about settings. After any number of them, loading
the file gives the map with the accepted changes, one after another, and other keys keep their texts.
A name means the key that it spells, and each key has an entry of its own. A command that has nothing
to change leaves every file as it was. -/
theorem settings_file_is_map (invocations : List Invocation) (world : World)
    (hinvocations : ∀ invocation ∈ invocations,
      invocation.IsAboutSettingsIn directory client path)
    (hholds : Settings.Holds world.files world.directory path map)
    (hwritable : world.files.Writable world.directory path) :
    (∃ world' settings world'',
      (invocations.mapM (run (World.host directory client))).run world =
        pure (invocations.map fun invocation => invocation.task.answer, world') ∧
      (Settings.load (World.host directory client) path).run world' = pure (.ok settings, world'') ∧
      settings.get? = mapAfter map invocations ∧
      ∀ key, (∀ known : SettingKey, key ≠ known.name) → settings.get? key = map key) ∧
    (∀ name key, keyOf? name = some key ↔ key.Spelled name) ∧
    Function.Injective SettingKey.name ∧
    ∀ (invocation : Invocation) (other : World),
      settingsPath (World.host directory client) invocation = .ok path →
      ChangesNothing other.files other.directory path invocation.task →
      ∃ result emitted, (run (World.host directory client) invocation).run other =
        pure (result, ⟨other.files, other.directory, emitted⟩) := by
  refine ⟨?_, fun name key => keyOf?_eq_some_iff, SettingKey.name_injective, ?_⟩
  · obtain ⟨files', hyields, hholds'⟩ :=
      exists_yields_mapAfter directory client hinvocations hholds hwritable
    obtain ⟨settings, hloads, hget⟩ := hholds'.exists_inFile
    obtain ⟨emitted, hrun⟩ := hyields world.emitted
    obtain ⟨emitted', hload⟩ := Settings.yields_load directory client path emitted
    rw [hloads] at hload
    refine ⟨_, settings, _, hrun, hload, hget, fun key hkey => ?_⟩
    rw [hget, mapAfter_of_ne hkey]
  · intro invocation other hpath hnothing
    obtain ⟨result, hyields⟩ := hnothing.exists_yields_runTask directory client
    obtain ⟨emitted, hrun⟩ :=
      hyields.run_of_settingsPath directory client hpath other.emitted
    exact ⟨result, emitted, hrun⟩

end

/-! ## A sample of settings -/

/-- A text that holds settings: a key is repeated, and another one is not known. -/
def settledText : String :=
  "\x7b\"theme\": \"dark\", \"nl2ui_model\": \"a\", \"nl2ui_model\": \"b\"\x7d"

/-- The map of that text. -/
def settledMap (key : String) : Option String :=
  lastAt? key [("theme", "dark"), ("nl2ui_model", "a"), ("nl2ui_model", "b")]

/-- A machine with that text as its settings file. -/
def settledWorld : World := ⟨⟨[(["settings"], .file settledText.toUTF8)]⟩, [], []⟩

/-- A machine with a text as its settings file. -/
def settingsWorld (text : String) : World := ⟨⟨[(["settings"], .file text.toUTF8)]⟩, [], []⟩

/-- The settings file holds the last text of each key. -/
theorem holds_settingsWorld {text : String} {entries : List (String × String)}
    {map : String → Option String} (h : SpellsValue text.toList (textObject entries))
    (hmap : ∀ key, map key = lastAt? key entries) :
    Settings.Holds (settingsWorld text).files (settingsWorld text).directory ⟨"settings"⟩ map := by
  obtain ⟨-, -, hsettings⟩ := isPlainName_samples
  have hplace := hsettings.place_eq (settingsWorld text).files
  obtain ⟨-, -, -, hslash, hpath, -⟩ := hsettings
  refine .inr ⟨text, entries, FileTree.readText_of_entryOf ?_, h, hmap⟩
  refine FileTree.entryOf_of_place hpath hslash hplace ?_
  simp [FileTree.fileAt?, FileTree.lookup, settingsWorld]

/-- The settings file holds the map. -/
theorem holds_settledWorld :
    Settings.Holds settledWorld.files settledWorld.directory ⟨"settings"⟩ settledMap :=
  holds_settingsWorld (Json.readTextMap_eq_ok_iff.mp (by cbv)) fun _ => rfl

/-- A known key is set, another one is taken out, and an unknown one is refused. -/
theorem settings_file_is_map_sample :
    let client : Chat.Client := ⟨"stub", fun _ _ => ⟨none, .ok "", []⟩⟩
    let host := World.host none client
    let invocations : List Invocation := [⟨some ⟨"settings"⟩, .setKey "nl2ui-base-url" "例"⟩,
      ⟨some ⟨"settings"⟩, .unsetKey "model"⟩, ⟨some ⟨"settings"⟩, .setKey "colour" "x"⟩]
    ∃ world' settings world'',
      (invocations.mapM (run host)).run settledWorld =
        pure ([.ok 0, .ok 0, .error (.unknownKey "colour")], world') ∧
      (Settings.load host ⟨"settings"⟩).run world' = pure (.ok settings, world'') ∧
      settings.get? "theme" = some "dark" ∧ settings.get? "nl2ui_base_url" = some "例" ∧
      settings.get? "nl2ui_model" = none := by
  intro client host invocations
  obtain ⟨-, -, hsettings⟩ := isPlainName_samples
  have hwritable : settledWorld.files.Writable settledWorld.directory ⟨"settings"⟩ :=
    ⟨.empty, _, hsettings.save_eq (by simp [settledWorld, FileTree.lookup]) _⟩
  have hbaseUrl : keyOf? "nl2ui-base-url" = some .baseUrl := by decide
  have hmodel : keyOf? "model" = some .model := by decide
  have hcolour : keyOf? "colour" = none := by decide
  have hanswers : invocations.map (fun invocation => invocation.task.answer) =
      [.ok 0, .ok 0, .error (.unknownKey "colour")] := by
    simp [invocations, Task.answer, answerTo, hbaseUrl, hmodel, hcolour]
  have hmap : mapAfter settledMap invocations =
      Function.update (Function.update settledMap "nl2ui_base_url" (some "例")) "nl2ui_model" none := by
    simp [invocations, mapAfter, Task.apply, changed, hbaseUrl, hmodel, hcolour, SettingKey.name]
  obtain ⟨⟨world', settings, world'', hrun, hload, hget, -⟩, -⟩ :=
    settings_file_is_map none client invocations settledWorld
      (by simp [invocations, Invocation.IsAboutSettingsIn, settingsPath, Task.IsAboutSettings.setKey,
        Task.IsAboutSettings.unsetKey]) holds_settledWorld hwritable
  rw [hanswers] at hrun
  refine ⟨world', settings, world'', hrun, hload, ?_⟩
  rw [hget, hmap]
  decide

end Command

end PageSketch
