import PageSketch.Command.Arguments
import PageSketch.Session.Basic
import PageSketch.Settings.Store
import PageSketch.Sketch.Writer

/-!
# Running commands

Every command gives an exit code, or an error that ends the program. A command that goes wrong has
not written anything: files are written last, and settings only after the key has been found to be
known.
-/

namespace PageSketch.Command

/-! ## Errors -/

/-- What ends a command. -/
inductive Error where
  | file (fault : FileFault)
  | settings (error : SettingsError)
  | sketch (failure : Failure)
  | noSettingsPath
  | unknownKey (name : String)

/-- The message of an error. -/
def Error.message : Error → String
  | file fault => "IO error: " ++ fault.message
  | settings error => "Settings error: " ++ error.message
  | sketch failure => "Invalid DSL file: " ++ failure.message
  | noSettingsPath => "No config directory available; pass --settings"
  | unknownKey name =>
    "Unknown settings key '" ++ name ++ "' (expected api_key, base_url or model)"

/-! ## Keys -/

/-- A name with underscores for its hyphens. -/
def withUnderscores (name : String) : String :=
  String.ofList (name.toList.map fun c => if c = '-' then '_' else c)

/-- The label that a key may have in front. -/
def keyLabel : List Char := ['n', 'l', '2', 'u', 'i', '_']

/-- The name behind the label of the program, if it has one. -/
def withoutLabel (name : String) : String :=
  if keyLabel.isPrefixOf name.toList then String.ofList (name.toList.drop keyLabel.length)
  else name

/-- The key that a name means: with hyphens or underscores, and with or without the label. -/
def keyOf? (name : String) : Option SettingKey :=
  let short := withoutLabel (withUnderscores name)
  if short = "api_key" then some .apiKey
  else if short = "base_url" then some .baseUrl
  else if short = "model" then some .model
  else none

/-- A secret of which only the beginning is shown. -/
def mask (secret : String) : String := String.ofList (secret.toList.take 3) ++ "***"

/-- The line that shows a setting. -/
def settingLine (settings : Settings) (key : SettingKey) : String :=
  key.name ++ " = " ++
    match settings.get? key.name with
    | none => "(unset)"
    | some value => if key = .apiKey then mask value else value

/-! ## Parts of commands -/

variable {m : Type → Type} [Monad m]

/-- The effects of commands, any of which may end the command. -/
abbrev Act (m : Type → Type) (α : Type) := ExceptT Error m α

/-- An operation whose failure ends the command. -/
def orFail {ε α : Type} (wrap : ε → Error) (action : m (Except ε α)) : Act m α :=
  ExceptT.mk do
    match ← action with
    | .ok a => return .ok a
    | .error e => return .error (wrap e)

/-- The options of a source. -/
def sourceOptions (output : OutputChoice) : SourceOptions :=
  { SourceOptions.standard with imports := if output.liveImports then .live else .advisory }

/-- Writes a file. -/
def writeFile (host : Host m) (path : Path) (text : String) : Act m Unit := do
  orFail .file (host.writeText path text)
  host.note (.plain .info .commands ("Wrote " ++ path.text))

/-- Writes the source of a sketch to the chosen file, or prints it. -/
def emit (host : Host m) (out : Option Path) (source : String) : Act m Unit :=
  match out with
  | some path => writeFile host path source
  | none => host.print source

/-- Reads the sketch in a file. -/
def readSketch (host : Host m) (file : Path) : Act m Sketch := do
  let text ← orFail .file (host.readText file)
  match Reply.sketch text with
  | .ok sketch => return sketch
  | .error failure => throw (.sketch failure)

/-! ## Generating -/

/-- Carries out a generation. -/
def carryOut (host : Host m) (options : Options) (settings : ModelSettings) (text : String) :
    m Outcome := do
  let conclusion ← match plan options settings text with
    | .sample => do
      host.wait options.sampleDelay
      pure (concludeSample text)
    | .ask endpoint request => do
      host.note (askingNote host.clientName endpoint request)
      let completion ← host.ask endpoint request
      host.noteAll completion.notes
      pure (concludeReply options.validation completion.result)
  host.noteAll conclusion.notes
  return conclusion.outcome

/-- The lines that tell how a generation ended. -/
def outcomeLines (outcome : Outcome) : List String :=
  outcome.message :: outcome.violations.map fun violation => "  warning: " ++ violation.message

/-- Writes the sketch to the path given for it, if there is one. -/
def writeSketch (host : Host m) (out : Option Path) (sketch : Sketch) : Act m Unit :=
  match out with
  | some path => writeFile host path sketch.toValue.pretty
  | none => pure ()

/-- Generates a sketch in a fresh session and puts out its source. -/
def runGenerate (host : Host m) (settingsPath : Path) (text : String) (output : OutputChoice)
    (sketchOut : Option Path) (strict : Bool) : Act m Nat := do
  let settings ← orFail .settings (Settings.load host settingsPath)
  let options := { Options.standard with validation := if strict then .strict else .lenient }
  let outcome ← (carryOut host options settings.forModel text : m Outcome)
  host.reportAll (outcomeLines outcome)
  match outcome.sketch? with
  | none => return 1
  | some sketch =>
    writeSketch host sketchOut sketch
    host.noteAll (Session.compiledNotes (some sketch))
    emit host output.out (Markup.source (sourceOptions output) (some sketch))
    return 0

/-! ## Other commands -/

/-- Puts out the source of the sketch in a file. -/
def runCompile (host : Host m) (file : Path) (output : OutputChoice) : Act m Nat := do
  let sketch ← readSketch host file
  host.noteAll (Session.compiledNotes (some sketch))
  emit host output.out (Markup.source (sourceOptions output) (some sketch))
  return 0

/-- Checks the sketch in a file. -/
def runValidate (host : Host m) (file : Path) : Act m Nat := do
  let sketch ← readSketch host file
  match sketch.violations with
  | [] =>
    host.print "OK: no violations"
    return 0
  | violations =>
    host.printAll (violations.map Violation.message)
    return 1

/-- The key that a name means; another name ends the command. -/
def keyOf (name : String) : Act m SettingKey :=
  match keyOf? name with
  | some key => pure key
  | none => throw (.unknownKey name)

/-- Sets a setting. -/
def runSet (host : Host m) (path : Path) (name value : String) : Act m Nat := do
  let settings ← orFail .settings (Settings.load host path)
  let key ← keyOf name
  orFail .settings ((settings.set key.name value).save host path)
  return 0

/-- Takes a setting out; if it is not there, nothing is written. -/
def runUnset (host : Host m) (path : Path) (name : String) : Act m Nat := do
  let settings ← orFail .settings (Settings.load host path)
  let key ← keyOf name
  match settings.get? key.name with
  | some _ => orFail .settings ((settings.erase key.name).save host path)
  | none => pure ()
  return 0

/-- Shows the settings. -/
def runShow (host : Host m) (path : Path) : Act m Nat := do
  let settings ← orFail .settings (Settings.load host path)
  host.printAll (("# " ++ path.text) :: SettingKey.all.map (settingLine settings))
  return 0

/-! ## All commands -/

/-- The settings file of an invocation. -/
def settingsPath (host : Host m) (invocation : Invocation) : Except Error Path :=
  match invocation.settings, host.settingsDirectory with
  | some path, _ => .ok path
  | none, some directory => .ok (Settings.standardPath directory)
  | none, none => .error .noSettingsPath

/-- Carries out a task with a settings file. -/
def runTask (host : Host m) (path : Path) : Task → Act m Nat
  | .generate text output sketchOut strict =>
    runGenerate host path text output sketchOut strict
  | .compile file output => runCompile host file output
  | .validate file => runValidate host file
  | .setKey name value => runSet host path name value
  | .unsetKey name => runUnset host path name
  | .showSettings => runShow host path

/-- Carries out an invocation. -/
def run (host : Host m) (invocation : Invocation) : m (Except Error Nat) :=
  match settingsPath host invocation with
  | .ok path => (runTask host path invocation.task).run
  | .error e => pure (.error e)

end PageSketch.Command
