import PageSketch.Proofs.Files.Saving
import PageSketch.Proofs.Generation.Questions

/-!
# The steps of commands on a world

Whatever was printed or noted before, the course of a command depends on the files alone. For each
part of a command it is told what the part yields on which files, and the parts are put together by
two rules for sequences: a part that goes on, and a part that ends the command.
-/

namespace PageSketch

/-- Whether an action in a working directory turns these files into those and ends with a result,
whatever was printed or noted before. -/
def World.Yields {α : Type} (current : Location) (files : FileTree) (action : StateM World α) (a : α)
    (files' : FileTree) : Prop :=
  ∀ emitted, ∃ emitted',
    action.run ⟨files, current, emitted⟩ = pure (a, ⟨files', current, emitted'⟩)

namespace World

variable {α β : Type} {current : Location} {files files' files'' : FileTree}

/-- Returning a result changes no file. -/
theorem yields_pure (a : α) : Yields current files (pure a) a files := fun emitted => ⟨emitted, rfl⟩

/-- A result that is changed afterwards. -/
theorem Yields.map {action : StateM World α} {a : α} (f : α → β)
    (h : Yields current files action a files') : Yields current files (f <$> action) (f a) files' := by
  intro emitted
  obtain ⟨emitted', hrun⟩ := h emitted
  exact ⟨emitted', by rw [StateT.run_map, hrun]; rfl⟩

/-- Two actions one after the other. -/
theorem Yields.bind {action : StateM World α} {next : α → StateM World β} {a : α} {b : β}
    (h : Yields current files action a files') (hnext : Yields current files' (next a) b files'') :
    Yields current files (action >>= next) b files'' := by
  intro emitted
  obtain ⟨emitted', hrun⟩ := h emitted
  obtain ⟨emitted'', hrun'⟩ := hnext emitted'
  refine ⟨emitted'', ?_⟩
  rw [StateT.run_bind, hrun, pure_bind]
  exact hrun'

end World

namespace Command

open World

variable {α β : Type} {current : Location} {files files' files'' : FileTree} {e : Error}

/-! ## Acts -/

/-- Whether an act of a command in a working directory turns these files into those and ends with a
result or an error. -/
abbrev Yields (current : Location) (files : FileTree) (act : Act (StateM World) α)
    (result : Except Error α) (files' : FileTree) : Prop :=
  World.Yields current files act.run result files'

/-- An act goes on or ends the command. -/
theorem run_bind_act (act : Act (StateM World) α) (next : α → Act (StateM World) β) :
    (act >>= next).run = act.run >>= fun
      | .ok a => (next a).run
      | .error e => pure (.error e) := by
  rw [ExceptT.run_bind]
  congr 1
  funext x
  cases x <;> rfl

/-- On a world, an action that cannot fail is an act that goes on. -/
theorem run_lift_act {action : StateM World α} {a : α} {world world' : World}
    (h : action.run world = pure (a, world')) :
    (liftM action : Act (StateM World) α).run.run world = pure (.ok a, world') := by
  show (Except.ok <$> action).run world = _
  rw [StateT.run_map, h]
  rfl

/-- An act that goes on, and the one after it. -/
theorem Yields.andThen {act : Act (StateM World) α} {next : α → Act (StateM World) β} {a : α}
    {result : Except Error β} (h : Yields current files act (.ok a) files')
    (hnext : Yields current files' (next a) result files'') :
    Yields current files (act >>= next) result files'' := by
  rw [Yields, run_bind_act]
  exact World.Yields.bind h hnext

/-- An act that ends the command. -/
theorem Yields.stop {act : Act (StateM World) α} {next : α → Act (StateM World) β}
    (h : Yields current files act (.error e) files') :
    Yields current files (act >>= next) (.error e) files' := by
  rw [Yields, run_bind_act]
  exact World.Yields.bind h (yields_pure _)

/-- Going on with a result changes no file. -/
theorem yields_return (a : α) : Yields current files (pure a) (.ok a) files := yields_pure _

/-- Ending the command changes no file. -/
theorem yields_throw (e : Error) :
    Yields current files (throw e : Act (StateM World) α) (.error e) files :=
  yields_pure _

/-- An action that cannot fail lets the command go on. -/
theorem yields_lift {action : StateM World α} {a : α}
    (h : World.Yields current files action a files') :
    Yields current files (liftM action) (.ok a) files' :=
  h.map Except.ok

/-- An operation that works lets the command go on, and one that fails ends it. -/
theorem yields_orFail {ε : Type} (wrap : ε → Error) {action : StateM World (Except ε α)}
    {result : Except ε α} (h : World.Yields current files action result files') :
    Yields current files (orFail wrap action) (result.mapError wrap) files' := by
  refine World.Yields.bind h ?_
  cases result <;> exact yields_pure _

end Command

/-! ## Printing, noting and writing -/

/-- The world with further lines. -/
def World.printing (world : World) (lines : List String) : World :=
  { world with emitted := world.emitted ++ lines.map .printed }

namespace World

variable (directory : Option Path) (client : Chat.Client) {current : Location}
  {files files' : FileTree}

/-- On a world a line is printed. -/
theorem run_print (line : String) (world : World) :
    ((host directory client).print line).run world = pure ((), world.printing [line]) := rfl

/-- On a world lines are printed in their order. -/
theorem run_printAll (lines : List String) (world : World) :
    ((host directory client).printAll lines).run world = pure ((), world.printing lines) := by
  induction lines generalizing world with
  | nil => simp [Host.printAll, printing]
  | cons line rest ih => simp [Host.printAll, run_print, ih, printing]

/-- Noting changes no file. -/
theorem yields_note (entry : LogEntry) :
    Yields current files ((host directory client).note entry) () files := fun _ => ⟨_, rfl⟩

/-- Printing changes no file. -/
theorem yields_print (line : String) :
    Yields current files ((host directory client).print line) () files := fun _ => ⟨_, rfl⟩

/-- Reporting changes no file. -/
theorem yields_report (line : String) :
    Yields current files ((host directory client).report line) () files := fun _ => ⟨_, rfl⟩

/-- Noting entries changes no file. -/
theorem yields_noteAll (entries : List LogEntry) :
    Yields current files ((host directory client).noteAll entries) () files := by
  induction entries with
  | nil => exact yields_pure ()
  | cons entry rest ih => exact (yields_note directory client entry).bind ih

/-- Printing lines changes no file. -/
theorem yields_printAll (lines : List String) :
    Yields current files ((host directory client).printAll lines) () files := by
  induction lines with
  | nil => exact yields_pure ()
  | cons line rest ih => exact (yields_print directory client line).bind ih

/-- Reporting lines changes no file. -/
theorem yields_reportAll (lines : List String) :
    Yields current files ((host directory client).reportAll lines) () files := by
  induction lines with
  | nil => exact yields_pure ()
  | cons line rest ih => exact (yields_report directory client line).bind ih

/-- Looking for a path changes no file. -/
theorem yields_hasEntry (path : Path) :
    Yields current files ((host directory client).hasEntry path) (files.hasEntry current path)
      files := fun _ => ⟨_, rfl⟩

/-- Reading a text changes no file. -/
theorem yields_readText (path : Path) :
    Yields current files ((host directory client).readText path) (files.readText current path)
      files := fun _ => ⟨_, rfl⟩

/-- On a world a text is written by saving it. -/
theorem run_writeText (path : Path) (text : String) (world : World) :
    ((host directory client).writeText path text).run world =
      pure ((world.files.save world.directory path text.toUTF8).1,
        { world with files := (world.files.save world.directory path text.toUTF8).2 }) := by
  simp only [host, StateT.run]
  rcases world.files.save world.directory path text.toUTF8 with ⟨result, files⟩
  rfl

/-- Writing a text saves it, or fails as saving does. -/
theorem yields_writeText {path : Path} {text : String} {result : Except FileFault Unit}
    (h : files.save current path text.toUTF8 = (result, files')) :
    Yields current files ((host directory client).writeText path text) result files' :=
  fun emitted => ⟨emitted, by rw [run_writeText, h]⟩

end World

/-! ## Settings and sketches in files -/

/-- The settings in a file of a tree; a file that is not there holds none. -/
def Settings.inFile (files : FileTree) (current : Location) (path : Path) :
    Except SettingsError Settings :=
  match files.hasEntry current path with
  | .error fault => .error (.file fault)
  | .ok false => .ok .empty
  | .ok true =>
    match files.readText current path with
    | .error fault => .error (.file fault)
    | .ok text =>
      match Settings.read text with
      | .error fault => .error (.malformed fault)
      | .ok settings => .ok settings

/-- The sketch in a file of a tree. -/
def Sketch.inFile (files : FileTree) (current : Location) (path : Path) :
    Except Command.Error Sketch :=
  match files.readText current path with
  | .error fault => .error (.file fault)
  | .ok text =>
    match Reply.sketch text with
    | .error failure => .error (.sketch failure)
    | .ok sketch => .ok sketch

section

variable (directory : Option Path) (client : Chat.Client) {current : Location}
  {files files' : FileTree}

/-- Loading settings gives those in the file, and changes no file. -/
theorem Settings.yields_load (path : Path) :
    World.Yields current files (Settings.load (World.host directory client) path)
      (Settings.inFile files current path) files := by
  rw [Settings.load, Settings.inFile]
  refine (World.yields_hasEntry directory client path).bind ?_
  cases files.hasEntry current path with
  | error fault => exact World.yields_pure _
  | ok present =>
    cases present with
    | false => exact World.yields_pure _
    | true =>
      refine (World.yields_readText directory client path).bind ?_
      cases files.readText current path with
      | error fault => exact World.yields_pure _
      | ok text =>
        simp only
        cases Settings.read text with
        | error fault => exact World.yields_pure _
        | ok settings => exact (World.yields_note directory client _).bind (World.yields_pure _)

/-- Saving settings saves their text. -/
theorem Settings.yields_save {settings : Settings} {path : Path}
    (h : files.save current path settings.text.toUTF8 = (.ok (), files')) :
    World.Yields current files (settings.save (World.host directory client) path) (.ok ())
      files' := by
  rw [Settings.save]
  exact (World.yields_writeText directory client h).bind
    ((World.yields_note directory client _).bind (World.yields_pure _))

namespace Command

/-- Reading a sketch gives the one in the file, and changes no file. -/
theorem yields_readSketch (path : Path) :
    Yields current files (readSketch (World.host directory client) path)
      (Sketch.inFile files current path) files := by
  rw [readSketch, Sketch.inFile]
  have htext : Yields current files (orFail .file ((World.host directory client).readText path))
      ((files.readText current path).mapError .file) files :=
    yields_orFail .file (World.yields_readText directory client path)
  cases hread : files.readText current path with
  | error fault =>
    rw [hread] at htext
    exact htext.stop
  | ok text =>
    rw [hread] at htext
    refine htext.andThen ?_
    simp only
    cases Reply.sketch text with
    | error failure => exact yields_throw _
    | ok sketch => exact yields_return _

/-- Writing a file saves its text. -/
theorem yields_writeFile {path : Path} {text : String}
    (h : files.save current path text.toUTF8 = (.ok (), files')) :
    Yields current files (writeFile (World.host directory client) path text) (.ok ()) files' := by
  rw [writeFile]
  exact (yields_orFail .file (World.yields_writeText directory client h)).andThen
    (yields_lift (World.yields_note directory client _))

/-- Carrying out a generation comes to the outcome of its call, and changes no file. -/
theorem yields_carryOut (options : Options) (settings : ModelSettings) (text : String) :
    World.Yields current files (carryOut (World.host directory client) options settings text)
      (generate options client settings text).outcome files :=
  fun _ => ⟨_, run_carryOut directory client options settings text _⟩

/-- A known key is gone on with. -/
theorem yields_keyOf_some {name : String} {key : SettingKey} (h : keyOf? name = some key) :
    Yields current files (keyOf name) (.ok key) files := by
  rw [keyOf, h]
  exact yields_return key

/-- Another name ends the command. -/
theorem yields_keyOf_none {name : String} (h : keyOf? name = none) :
    Yields current files (keyOf name) (.error (.unknownKey name)) files := by
  rw [keyOf, h]
  exact yields_throw _

end Command

end

end PageSketch
