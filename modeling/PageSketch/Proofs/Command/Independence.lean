import PageSketch.Proofs.Command.Effects
import PageSketch.Proofs.Files.Ways

/-!
# What compiling and checking depend on

The place of the settings is determined before the task is looked at. Compiling and checking a sketch
use nothing of it: whatever the settings are, the same is done. Two runs that begin in two trees of
files are compared part by part; when the trees agree on the way to the sketch and above the place of
the output, the runs end the same, emit the same and change the trees alike.
-/

namespace PageSketch

/-! ## The same in two trees -/

/-- Whether an action does the same in two trees of files, whatever was printed or noted before: it
ends with the same result and emits the same, and leaves trees as told. -/
def World.RunsAlike {α : Type} (current : Location) (tree tree' : FileTree)
    (action : StateM World α) (leaves : α → FileTree → FileTree → Prop) : Prop :=
  ∃ a added after after', leaves a after after' ∧ ∀ emitted,
    action.run ⟨tree, current, emitted⟩ = pure (a, ⟨after, current, emitted ++ added⟩) ∧
      action.run ⟨tree', current, emitted⟩ = pure (a, ⟨after', current, emitted ++ added⟩)

/-- Whether an action emits something and does nothing else. -/
def World.Emits (action : StateM World Unit) (added : List Emission) : Prop :=
  ∀ world, action.run world = pure ((), { world with emitted := world.emitted ++ added })

namespace World

variable {α β : Type} {current : Location} {tree tree' : FileTree}

/-- Returning a result does the same in any two trees. -/
theorem runsAlike_pure {a : α} {leaves : α → FileTree → FileTree → Prop}
    (hleaves : leaves a tree tree') : RunsAlike current tree tree' (pure a) leaves :=
  ⟨a, [], tree, tree', hleaves, fun emitted => by rw [List.append_nil]; exact ⟨rfl, rfl⟩⟩

/-- Two actions one after the other, of which the second does the same in any trees that the first may
leave. -/
theorem RunsAlike.bind {action : StateM World α} {next : α → StateM World β}
    {leaves : α → FileTree → FileTree → Prop} {leaves' : β → FileTree → FileTree → Prop}
    (h : RunsAlike current tree tree' action leaves)
    (hnext : ∀ a after after', leaves a after after' →
      RunsAlike current after after' (next a) leaves') :
    RunsAlike current tree tree' (action >>= next) leaves' := by
  obtain ⟨a, added, after, after', hleaves, hrun⟩ := h
  obtain ⟨b, added', last, last', hleaves', hrun'⟩ := hnext a after after' hleaves
  refine ⟨b, added ++ added', last, last', hleaves', fun emitted => ?_⟩
  obtain ⟨hfirst, hfirst'⟩ := hrun emitted
  obtain ⟨hsecond, hsecond'⟩ := hrun' (emitted ++ added)
  rw [StateT.run_bind, StateT.run_bind, hfirst, hfirst', pure_bind, pure_bind, ← List.append_assoc]
  exact ⟨hsecond, hsecond'⟩

end World

namespace Command

open World FileTree

variable {α β : Type} {current : Location} {tree tree' : FileTree} {file path : Path}
  {out : Option Path}

/-- Whether an act of a command does the same in two trees of files. -/
abbrev RunsAlike (current : Location) (tree tree' : FileTree) (act : Act (StateM World) α)
    (leaves : Except Error α → FileTree → FileTree → Prop) : Prop :=
  World.RunsAlike current tree tree' act.run leaves

/-- An act, and the one after it if the command goes on. -/
theorem RunsAlike.andThen {act : Act (StateM World) α} {next : α → Act (StateM World) β}
    {leaves : Except Error α → FileTree → FileTree → Prop}
    {leaves' : Except Error β → FileTree → FileTree → Prop}
    (h : RunsAlike current tree tree' act leaves)
    (hnext : ∀ a after after', leaves (.ok a) after after' →
      RunsAlike current after after' (next a) leaves')
    (hstop : ∀ e after after', leaves (.error e) after after' → leaves' (.error e) after after') :
    RunsAlike current tree tree' (act >>= next) leaves' := by
  rw [RunsAlike, run_bind_act]
  refine World.RunsAlike.bind h fun result after after' hleaves => ?_
  cases result with
  | ok a => exact hnext a after after' hleaves
  | error e => exact runsAlike_pure (hstop e after after' hleaves)

/-- An operation that does the same in two trees lets the command go on in both, or ends it in both. -/
theorem runsAlike_orFail {ε : Type} (wrap : ε → Error) {action : StateM World (Except ε α)}
    {leaves : Except ε α → FileTree → FileTree → Prop}
    {leaves' : Except Error α → FileTree → FileTree → Prop}
    (h : World.RunsAlike current tree tree' action leaves)
    (hleaves : ∀ result after after', leaves result after after' →
      leaves' (result.mapError wrap) after after') :
    RunsAlike current tree tree' (orFail wrap action) leaves' := by
  refine World.RunsAlike.bind h fun result after after' hresult => ?_
  cases result with
  | ok a => exact runsAlike_pure (hleaves (.ok a) after after' hresult)
  | error e => exact runsAlike_pure (hleaves (.error e) after after' hresult)

/-- An action that only emits does the same in any two trees, and the command goes on. -/
theorem runsAlike_lift {action : StateM World Unit} {added : List Emission}
    {leaves : Except Error Unit → FileTree → FileTree → Prop} (h : Emits action added)
    (hleaves : leaves (.ok ()) tree tree') :
    RunsAlike current tree tree' (liftM action) leaves :=
  ⟨.ok (), added, tree, tree', hleaves, fun _ => ⟨run_lift_act (h _), run_lift_act (h _)⟩⟩

/-! ## Parts of commands -/

/-- Both trees are left as they are. -/
def Kept (tree tree' after after' : FileTree) : Prop := after = tree ∧ after' = tree'

/-- How two trees are left when the same is put out in both: they are changed alike, and when it works,
the same file is where it was to be written. -/
structure PutOut {ε : Type} (current : Location) (out : Option Path) (tree tree' : FileTree)
    (result : Except ε α) (after after' : FileTree) : Prop where
  changedAlike : ChangedAlike tree tree' after after'
  written : result.isOk = true → ∀ path ∈ out,
    ∃ contents, after.lookup (target current path) = some (.file contents) ∧
      after'.lookup (target current path) = some (.file contents)

/-- When trees are left as they are and nothing had to be written, that is putting out the same. -/
theorem Kept.putOut {ε : Type} {result : Except ε α} {after after' : FileTree}
    (h : Kept tree tree' after after') (hnothing : result.isOk = true → out = none) :
    PutOut current out tree tree' result after after' := by
  obtain ⟨rfl, rfl⟩ := h
  refine ⟨.refl after after', fun hok path hpath => ?_⟩
  rw [hnothing hok] at hpath
  cases hpath

/-- What was written is there, whatever comes of it. -/
theorem PutOut.of_isOk {ε ε' : Type} {result : Except ε α} {result' : Except ε' β}
    {after after' : FileTree} (h : PutOut current out tree tree' result after after')
    (hok : result'.isOk = true → result.isOk = true) :
    PutOut current out tree tree' result' after after' :=
  ⟨h.changedAlike, fun hok' => h.written (hok hok')⟩

section

variable (directory : Option Path) (client : Chat.Client)

/-- A sketch is read from trees that agree on the way to it. -/
theorem runsAlike_readSketch (h : AgreeOn (wayTo current file) tree tree') :
    RunsAlike current tree tree' (readSketch (World.host directory client) file)
      fun _ => Kept tree tree' := by
  have hrun : ∀ files emitted,
      ((World.host directory client).readText file).run ⟨files, current, emitted⟩ =
        pure (files.readText current file, ⟨files, current, emitted⟩) := fun _ _ => rfl
  have htext : World.RunsAlike current tree tree' ((World.host directory client).readText file)
      fun _ => Kept tree tree' := by
    refine ⟨tree.readText current file, [], tree, tree', ⟨rfl, rfl⟩, fun emitted => ?_⟩
    rw [hrun, hrun, readText_congr h, List.append_nil]
    exact ⟨rfl, rfl⟩
  have hread : RunsAlike current tree tree'
      (orFail .file ((World.host directory client).readText file)) fun _ => Kept tree tree' :=
    runsAlike_orFail .file htext fun _ _ _ hkept => hkept
  unfold readSketch
  refine hread.andThen ?_ fun e after after' hkept => hkept
  rintro text _ _ ⟨rfl, rfl⟩
  cases Reply.sketch text with
  | ok sketch => exact runsAlike_pure ⟨rfl, rfl⟩
  | error failure => exact runsAlike_pure ⟨rfl, rfl⟩

/-- A text is saved in trees that agree above its place. -/
theorem runsAlike_writeText {text : String} (habove : AgreeOn (wayAbove current path) tree tree')
    (htarget : tree'.isDirectory (target current path) = tree.isDirectory (target current path)) :
    World.RunsAlike current tree tree' ((World.host directory client).writeText path text)
      (PutOut current (some path) tree tree') := by
  have hsave : Alike tree tree' (tree.save current path text.toUTF8)
      (tree'.save current path text.toUTF8) := save_alike habove htarget
  rcases htree : tree.save current path text.toUTF8 with ⟨result, after⟩
  rcases htree' : tree'.save current path text.toUTF8 with ⟨result', after'⟩
  rw [htree, htree'] at hsave
  obtain rfl : result' = result := hsave.result_eq
  refine ⟨result', [], after, after', ⟨hsave.changedAlike, ?_⟩, fun emitted => ?_⟩
  · intro hok _ hpath
    obtain rfl := Option.some.inj hpath
    cases result' with
    | error fault => cases hok
    | ok _ => exact ⟨_, lookup_target_of_save htree, lookup_target_of_save htree'⟩
  · rw [run_writeText, run_writeText]
    simp only [htree, htree', List.append_nil]
    exact ⟨trivial, trivial⟩

/-- A file is written in trees that agree above it. -/
theorem runsAlike_writeFile {text : String} (habove : AgreeOn (wayAbove current path) tree tree')
    (htarget : tree'.isDirectory (target current path) = tree.isDirectory (target current path)) :
    RunsAlike current tree tree' (writeFile (World.host directory client) path text)
      (PutOut current (some path) tree tree') := by
  have hwrite : RunsAlike current tree tree'
      (orFail .file ((World.host directory client).writeText path text))
      (PutOut current (some path) tree tree') := by
    apply runsAlike_orFail .file (runsAlike_writeText directory client habove htarget)
    intro result after after' hput
    apply hput.of_isOk
    cases result <;> exact id
  unfold writeFile
  refine hwrite.andThen ?_ fun e after after' hput => hput
  intro _ after after' hput
  exact runsAlike_lift (run_note directory client _) hput

/-- A source is put out in trees that agree above its place. -/
theorem runsAlike_emit {source : String}
    (habove : ∀ path ∈ out, AgreeOn (wayAbove current path) tree tree')
    (htarget : ∀ path ∈ out,
      tree'.isDirectory (target current path) = tree.isDirectory (target current path)) :
    RunsAlike current tree tree' (emit (World.host directory client) out source)
      (PutOut current out tree tree') := by
  cases out with
  | none =>
    have hkept : Kept tree tree' tree tree' := ⟨rfl, rfl⟩
    exact runsAlike_lift (run_print directory client source) (hkept.putOut fun _ => rfl)
  | some path =>
    exact runsAlike_writeFile directory client (habove path rfl) (htarget path rfl)

/-! ## Compiling and checking -/

/-- A sketch is compiled in trees that agree on the way to it and above the place of the output. -/
theorem runsAlike_compile {output : OutputChoice} (hfile : AgreeOn (wayTo current file) tree tree')
    (habove : ∀ path ∈ output.out, AgreeOn (wayAbove current path) tree tree')
    (htarget : ∀ path ∈ output.out,
      tree'.isDirectory (target current path) = tree.isDirectory (target current path)) :
    RunsAlike current tree tree' (runCompile (World.host directory client) file output)
      (PutOut current output.out tree tree') := by
  have hread := runsAlike_readSketch directory client hfile
  have hnote : ∀ entries, RunsAlike current tree tree'
      (liftM ((World.host directory client).noteAll entries)) fun _ => Kept tree tree' :=
    fun entries => runsAlike_lift (run_noteAll directory client entries) ⟨rfl, rfl⟩
  have hemit : ∀ source, RunsAlike current tree tree'
      (emit (World.host directory client) output.out source) (PutOut current output.out tree tree') :=
    fun source => runsAlike_emit directory client habove htarget
  unfold runCompile
  refine hread.andThen ?_ fun e after after' hkept => hkept.putOut fun hok => by cases hok
  rintro sketch _ _ ⟨rfl, rfl⟩
  refine (hnote _).andThen ?_ fun e after after' hkept => hkept.putOut fun hok => by cases hok
  rintro _ _ _ ⟨rfl, rfl⟩
  refine (hemit _).andThen ?_ fun e after after' hput => hput.of_isOk id
  intro _ after after' hput
  exact runsAlike_pure (hput.of_isOk fun _ => rfl)

/-- A sketch is checked in trees that agree on the way to it. -/
theorem runsAlike_validate (hfile : AgreeOn (wayTo current file) tree tree') :
    RunsAlike current tree tree' (runValidate (World.host directory client) file)
      (PutOut current none tree tree') := by
  have hread := runsAlike_readSketch directory client hfile
  have hprint : ∀ line, RunsAlike current tree tree'
      (liftM ((World.host directory client).print line)) fun _ => Kept tree tree' :=
    fun line => runsAlike_lift (run_print directory client line) ⟨rfl, rfl⟩
  have hprintAll : ∀ lines, RunsAlike current tree tree'
      (liftM ((World.host directory client).printAll lines)) fun _ => Kept tree tree' :=
    fun lines => runsAlike_lift (run_printAll directory client lines) ⟨rfl, rfl⟩
  have hstop : ∀ {result : Except Error Nat} {after after' : FileTree},
      Kept tree tree' after after' → PutOut current none tree tree' result after after' :=
    fun hkept => hkept.putOut fun _ => rfl
  unfold runValidate
  refine hread.andThen ?_ fun e after after' hkept => hstop hkept
  rintro sketch _ _ ⟨rfl, rfl⟩
  cases sketch.violations with
  | nil =>
    refine (hprint _).andThen ?_ fun e after after' hkept => hstop hkept
    intro _ after after' hkept
    exact runsAlike_pure (hstop hkept)
  | cons violation rest =>
    refine (hprintAll _).andThen ?_ fun e after after' hkept => hstop hkept
    intro _ after after' hkept
    exact runsAlike_pure (hstop hkept)

end

/-- Whether a task reads a sketch from a file and does nothing but put out its source or check it: the
file, and the place of the output if it is not printed. -/
inductive Task.Reads : Task → Path → Option Path → Prop
  | compile (file : Path) (output : OutputChoice) : Reads (.compile file output) file output.out
  | validate (file : Path) : Reads (.validate file) file none

/-- A task that only reads a sketch does the same in trees that agree on the way to the sketch and above
the place of the output. -/
theorem Task.Reads.runsAlike {task : Task} (hreads : task.Reads file out) (directory : Option Path)
    (client : Chat.Client) (settings : Path) (hfile : AgreeOn (wayTo current file) tree tree')
    (habove : ∀ path ∈ out, AgreeOn (wayAbove current path) tree tree')
    (htarget : ∀ path ∈ out,
      tree'.isDirectory (target current path) = tree.isDirectory (target current path)) :
    RunsAlike current tree tree' (runTask (World.host directory client) settings task)
      (PutOut current out tree tree') := by
  cases hreads with
  | compile file output => exact runsAlike_compile directory client hfile habove htarget
  | validate file => exact runsAlike_validate directory client hfile

/-! ## The same under any settings -/

section

variable (directory directory' : Option Path) (client client' : Chat.Client)

/-- What is noted does not depend on the settings. -/
theorem noteAll_host (entries : List LogEntry) :
    (World.host directory' client').noteAll entries =
      (World.host directory client).noteAll entries := by
  induction entries with
  | nil => rfl
  | cons entry rest ih =>
    rw [Host.noteAll, Host.noteAll, ih]
    rfl

/-- What is printed does not depend on the settings. -/
theorem printAll_host (lines : List String) :
    (World.host directory' client').printAll lines =
      (World.host directory client).printAll lines := by
  induction lines with
  | nil => rfl
  | cons line rest ih =>
    rw [Host.printAll, Host.printAll, ih]
    rfl

/-- The sketch that is read does not depend on the settings. -/
theorem readSketch_host (file : Path) :
    readSketch (World.host directory' client') file =
      readSketch (World.host directory client) file := by
  unfold readSketch
  rfl

/-- What is put out does not depend on the settings. -/
theorem emit_host (out : Option Path) (source : String) :
    emit (World.host directory' client') out source =
      emit (World.host directory client) out source := by
  cases out with
  | none => rfl
  | some path =>
    rw [emit, emit, writeFile, writeFile]
    rfl

/-- What a task does that only reads a sketch does not depend on the settings. -/
theorem Task.Reads.runTask_eq {task : Task} (hreads : task.Reads file out)
    (settings settings' : Path) :
    runTask (World.host directory' client') settings' task =
      runTask (World.host directory client) settings task := by
  have hread := readSketch_host directory directory' client client' file
  cases hreads with
  | compile file output =>
    have hnote := noteAll_host directory directory' client client'
    have hemit := emit_host directory directory' client client'
    simp only [runTask, runCompile, hread, hnote, hemit]
  | validate file =>
    have hprint := printAll_host directory directory' client client'
    simp only [runTask, runValidate, hread, hprint]
    rfl

/-- Compiling and checking ignore the settings. Two invocations with the same task, for both of which
there is a place for the settings, do exactly the same on every world. They also end the same, emit the
same and put out the same on worlds that differ in one file, such as the file with the settings: it may
be missing in one or in both of them, or hold anything. The file must not be on the way to the sketch,
nor one that has to be passed on the way to the place of the output. -/
theorem compile_validate_ignore_settings {invocation invocation' : Invocation} {path path' : Path}
    (hpath : settingsPath (World.host directory client) invocation = .ok path)
    (hpath' : settingsPath (World.host directory' client') invocation' = .ok path')
    (htask : invocation'.task = invocation.task) (hreads : invocation.task.Reads file out) :
    (∀ world, (run (World.host directory' client') invocation').run world =
      (run (World.host directory client) invocation).run world) ∧
    ∀ (world world' : World) (place : Location), world'.directory = world.directory →
      SameBut place world.files world'.files → place ∉ wayTo world.directory file →
      (∀ path ∈ out, place ∉ wayAbove world.directory path) →
      ∃ result added after after',
        (run (World.host directory client) invocation).run world =
          pure (result, ⟨after, world.directory, world.emitted ++ added⟩) ∧
        (run (World.host directory' client') invocation').run world' =
          pure (result, ⟨after', world'.directory, world'.emitted ++ added⟩) ∧
        PutOut world.directory out world.files world'.files result after after' := by
  have hsame : run (World.host directory' client') invocation' =
      run (World.host directory client) invocation := by
    rw [run, run, hpath, hpath', htask]
    exact congrArg ExceptT.run (hreads.runTask_eq directory directory' client client' path path')
  rw [hsame]
  refine ⟨fun world => rfl, ?_⟩
  rintro ⟨files, current, emitted⟩ ⟨files', current', emitted'⟩ place rfl hbut hfile habove
  obtain ⟨result, added, after, after', hput, hrun⟩ :=
    hreads.runsAlike directory client path (hbut.agreeOn hfile)
      (fun out hout => hbut.agreeOn (habove out hout)) fun out _ => hbut.isDirectory_eq _
  rw [run, hpath]
  exact ⟨result, added, after, after', (hrun emitted).1, (hrun emitted').2, hput⟩

end

/-! ## A page without elements -/

/-- The text of a sketch without elements. -/
def emptyText : String := "\x7b\"components\": []\x7d"

/-- A machine with that sketch, and with other files. -/
def emptyWorld (others : List (Location × FileEntry)) : World :=
  ⟨⟨(["sketch"], .file emptyText.toUTF8) :: others⟩, [], []⟩

/-- The sketch without elements is in its file. -/
theorem inFile_emptyWorld (others : List (Location × FileEntry)) :
    Sketch.inFile (emptyWorld others).files (emptyWorld others).directory ⟨"sketch"⟩ =
      .ok ⟨.empty, []⟩ := by
  obtain ⟨hsketch, -, -⟩ := isPlainName_samples
  have hplace := hsketch.place_eq (emptyWorld others).files
  obtain ⟨-, -, -, hslash, hpath, -⟩ := hsketch
  have hfile : (emptyWorld others).files.fileAt? ["sketch"] = some emptyText.toUTF8 := by
    simp [fileAt?, lookup, emptyWorld]
  have htext : (emptyWorld others).files.readText [] ⟨"sketch"⟩ = .ok emptyText :=
    readText_of_entryOf (entryOf_of_place hpath hslash hplace hfile)
  have hsketch : Reply.sketch emptyText = .ok ⟨.empty, []⟩ := by cbv
  have hcurrent : (emptyWorld others).directory = [] := rfl
  rw [Sketch.inFile, hcurrent, htext]
  simp only [hsketch]

/-- A plain name comes by the root and leads to its file. -/
theorem IsPlainName.mem_wayTo {name : String} (h : IsPlainName name) {location : Location}
    (hlocation : location ∈ wayTo [] ⟨name⟩) : location = [] ∨ location = [name] := by
  obtain ⟨hnames, -, habsolute, -, -, -, hhere, habove, -⟩ := h
  obtain ⟨front, hfront, rfl⟩ := hlocation
  rw [hnames, List.prefix_cons_iff] at hfront
  rcases hfront with rfl | ⟨rest, rfl, hrest⟩
  · exact .inl (by rw [startOf, habsolute]; rfl)
  · obtain rfl := List.prefix_nil.mp hrest
    exact .inr (by simp [startOf, habsolute, move, hhere, habove])

/-- The usual place of the settings when programs keep theirs in `/home`. -/
def usualPlace : Location := ["settings.json", "nl2ui", "home"]

/-- A machine with the sketch without elements and with the directory of that place. -/
def homeWorld : World := emptyWorld [(["nl2ui", "home"], .directory), (["home"], .directory)]

/-- That machine with malformed settings. -/
def spoiltWorld : World :=
  { homeWorld with files := homeWorld.files.withEntry usualPlace (.file "no map".toUTF8) }

/-- With malformed settings in their usual place the page is written as without any. -/
theorem compile_validate_ignore_settings_sample :
    let client : Chat.Client := ⟨"stub", fun _ _ => ⟨none, .ok "", []⟩⟩
    let task : Task := .compile ⟨"sketch"⟩ ⟨some ⟨"page"⟩, false⟩
    ∃ contents after after' emitted,
      (run (World.host none client) ⟨some ⟨"settings"⟩, task⟩).run homeWorld =
        pure (.ok 0, ⟨after, [], emitted⟩) ∧
      (run (World.host (some ⟨"/home"⟩) client) ⟨none, task⟩).run spoiltWorld =
        pure (.ok 0, ⟨after', [], emitted⟩) ∧
      after.lookup ["page"] = some (.file contents) ∧
      after'.lookup ["page"] = some (.file contents) := by
  intro client task
  obtain ⟨hsketch, hpage, -⟩ := isPlainName_samples
  have hbut : SameBut usualPlace homeWorld.files spoiltWorld.files :=
    sameBut_withEntry (by simp [isDirectory, lookup, homeWorld, emptyWorld, usualPlace]) _
  have hfile : usualPlace ∉ wayTo homeWorld.directory ⟨"sketch"⟩ := by
    intro hmem
    rcases hsketch.mem_wayTo hmem with hroot | hname
    · cases hroot
    · exact absurd hname (by decide)
  have habove : ∀ path ∈ some ⟨"page"⟩, usualPlace ∉ wayAbove homeWorld.directory path := by
    rintro _ ⟨⟩ hmem
    have hmem := hpage.mem_wayTo (way_subset_of_front (List.dropLast_prefix _) _ hmem)
    rcases hmem with hroot | hname
    · cases hroot
    · exact absurd hname (by decide)
  have hpath : settingsPath (World.host none client) ⟨some ⟨"settings"⟩, task⟩ =
      .ok ⟨"settings"⟩ := rfl
  have hpath' : settingsPath (World.host (some ⟨"/home"⟩) client) ⟨none, task⟩ =
      .ok (Settings.standardPath ⟨"/home"⟩) := rfl
  obtain ⟨-, hworlds⟩ :=
    compile_validate_ignore_settings none (some ⟨"/home"⟩) client client hpath hpath' rfl
      (.compile _ _)
  obtain ⟨result, added, after, after', hrun, hrun', hput⟩ :=
    hworlds homeWorld spoiltWorld usualPlace rfl hbut hfile habove
  -- The compilation works, because the page can be saved.
  have hlookup : homeWorld.files.lookup ["page"] ≠ some .directory := by
    simp [lookup, homeWorld, emptyWorld]
  have hyields : World.Yields homeWorld.directory homeWorld.files
      (run (World.host none client) ⟨some ⟨"settings"⟩, task⟩) (.ok 0) _ :=
    yields_run none client ⟨⟨"settings"⟩, rfl, .compile (inFile_emptyWorld _)⟩
      (saveAll_cons_eq_ok_iff.mpr ⟨_, hpage.save_eq hlookup _, rfl⟩)
  obtain ⟨emitted, hok⟩ := hyields homeWorld.emitted
  obtain ⟨rfl, -⟩ := Prod.mk.inj (hrun.symm.trans hok)
  obtain ⟨contents, hsource, hsource'⟩ := hput.written rfl ⟨"page"⟩ rfl
  have htarget : ["page"] = target homeWorld.directory ⟨"page"⟩ :=
    eq_target_of_place (hpage.place_eq homeWorld.files)
  rw [← htarget] at hsource hsource'
  exact ⟨contents, after, after', added, hrun, hrun', hsource, hsource'⟩

/-! ## Where the settings matter -/

/-- The parts of the path of a page in a directory of its own. -/
theorem settingsPage_parts :
    Path.names ⟨"settings/page"⟩ = ["settings", "page"] ∧
      Path.parentNames ⟨"settings/page"⟩ = ["settings"] ∧
      Path.isAbsolute ⟨"settings/page"⟩ = false ∧ Path.endsInSlash ⟨"settings/page"⟩ = false ∧
      pathFault? ⟨"settings/page"⟩ = none ∧
      textFault? (Path.parentText ⟨"settings/page"⟩) = none ∧
      ¬longestName < "settings".utf8ByteSize ∧ ¬longestName < "page".utf8ByteSize := by
  decide

/-- A page is saved in a directory of its own when the directory can be made. -/
theorem exists_save_settingsPage (contents : ByteArray) :
    ∃ files, (emptyWorld []).files.save [] ⟨"settings/page"⟩ contents = (.ok (), files) := by
  obtain ⟨hnames, hparents, habsolute, hslash, hpath, htext, hfirst, hsecond⟩ := settingsPage_parts
  have hmake : (emptyWorld []).files.makeParents [] ⟨"settings/page"⟩ =
      (.ok (), (emptyWorld []).files.withEntry ["settings"] .directory) := by
    simp [makeParents, htext, hparents, startOf, habsolute, makeDirectories, makeDirectory,
      followToMake, follow, step, lookup, emptyWorld, orPresent, hfirst]
  refine ⟨_, save_eq_ok_iff.mpr ⟨_, hmake, writeFile_eq_ok_iff.mpr
    ⟨["page", "settings"], hpath, ?_, hslash, ?_, rfl⟩⟩⟩
  · simp [place, hnames, startOf, habsolute, follow, step, lookup, emptyWorld, withEntry, hfirst,
      hsecond]
  · simp [lookup, emptyWorld, withEntry]

/-- A page cannot be saved below a file. -/
theorem save_settingsPage_eq_error (text : String) (contents : ByteArray) :
    (emptyWorld [(["settings"], .file text.toUTF8)]).files.save [] ⟨"settings/page"⟩ contents =
      (.error .alreadyExists, (emptyWorld [(["settings"], .file text.toUTF8)]).files) := by
  obtain ⟨-, hparents, habsolute, -, -, htext, hfirst, -⟩ := settingsPage_parts
  have hmake : (emptyWorld [(["settings"], .file text.toUTF8)]).files.makeParents []
      ⟨"settings/page"⟩ =
        (.error .alreadyExists, (emptyWorld [(["settings"], .file text.toUTF8)]).files) := by
    simp [makeParents, htext, hparents, startOf, habsolute, makeDirectories, makeDirectory,
      followToMake, follow, step, lookup, emptyWorld, orPresent, leadsToDirectory, isDirectory,
      hfirst]
  rw [save, hmake]

/-- Without a place for the settings nothing is compiled or checked, and an empty path for them is
refused. A page is compiled into a directory that has to be made, but not when the settings are a file
in its place. -/
theorem compile_validate_need_settings_place :
    let host := World.host none ⟨"stub", fun _ _ => ⟨none, .ok "", []⟩⟩
    let check : Task := .validate ⟨"sketch"⟩
    let compile : Task := .compile ⟨"sketch"⟩ ⟨some ⟨"settings/page"⟩, false⟩
    let bare := (emptyWorld []).files
    let settled := (emptyWorld [(["settings"], .file "\x7b\x7d".toUTF8)]).files
    Invocation.read ["validate", "sketch"] = .ok ⟨none, check⟩ ∧
      Invocation.read ["--settings", "", "validate", "sketch"] = .error .badValue ∧
      World.Yields [] bare (run host ⟨none, check⟩) (.error .noSettingsPath) bare ∧
      World.Yields [] bare (run host ⟨some ⟨"settings"⟩, check⟩) (.ok 0) bare ∧
      (∃ files, World.Yields [] bare (run host ⟨some ⟨"settings"⟩, compile⟩) (.ok 0) files) ∧
      World.Yields [] settled (run host ⟨some ⟨"settings"⟩, compile⟩)
        (.error (.file .alreadyExists)) settled := by
  intro host check compile bare settled
  refine ⟨rfl, rfl, yields_pure _, ?_, ?_, ?_⟩
  · exact yields_run none _ ⟨⟨"settings"⟩, rfl, .validate (inFile_emptyWorld []) (by decide)⟩ rfl
  · obtain ⟨files, hsave⟩ := exists_save_settingsPage (Markup.source
      (sourceOptions ⟨some ⟨"settings/page"⟩, false⟩) (some ⟨.empty, []⟩)).toUTF8
    exact ⟨files, yields_run none _ ⟨⟨"settings"⟩, rfl, .compile (inFile_emptyWorld [])⟩
      (saveAll_cons_eq_ok_iff.mpr ⟨files, hsave, rfl⟩)⟩
  · have hstop : ∀ text, Yields [] settled (writeFile host ⟨"settings/page"⟩ text)
        (.error (.file .alreadyExists)) settled := fun text =>
      (yields_orFail .file
        (yields_writeText none _ (save_settingsPage_eq_error _ text.toUTF8))).stop
    have hcompile : Yields [] settled (runCompile host ⟨"sketch"⟩ ⟨some ⟨"settings/page"⟩, false⟩)
        (.error (.file .alreadyExists)) settled := by
      unfold runCompile
      refine (yields_readSketch_of_inFile none _ (inFile_emptyWorld _)).andThen ?_
      refine (yields_lift (yields_noteAll none _ _)).andThen ?_
      exact (hstop _).stop
    have hpath : settingsPath host ⟨some ⟨"settings"⟩, compile⟩ = .ok ⟨"settings"⟩ := rfl
    exact hcompile.run_of_settingsPath none _ hpath

end Command

end PageSketch
