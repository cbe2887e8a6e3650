import PageSketch.Command.Grammar
import PageSketch.Files.Path

/-!
# The command line

The grammar of the program, and what its command lines ask for. The settings file can be named on
every level.
-/

namespace PageSketch.Command

/-! ## Tasks -/

/-- How a source is put out: where, if not printed, and with which imports. -/
structure OutputChoice where
  out : Option Path
  liveImports : Bool
deriving DecidableEq, Repr

/-- What can be asked for. -/
inductive Task where
  /-- Generate a sketch from a text and put out its source, and the sketch itself if a path is
  given for it. -/
  | generate (text : String) (output : OutputChoice) (sketchOut : Option Path) (strict : Bool)
  /-- Put out the source of the sketch in a file. -/
  | compile (file : Path) (output : OutputChoice)
  /-- Check the sketch in a file. -/
  | validate (file : Path)
  | setKey (key value : String)
  | unsetKey (key : String)
  | showSettings
deriving DecidableEq, Repr

/-- A task, and the settings file if one is named. -/
structure Invocation where
  settings : Option Path
  task : Task
deriving DecidableEq, Repr

/-! ## The grammar -/

/-- The option that names the settings file. -/
def settingsOption : OptionSpec := ⟨"settings", none, some .path⟩

/-- The options for the output of a source. -/
def outputOptions : List OptionSpec :=
  [⟨"out", some 'o', some .path⟩, ⟨"live-imports", none, none⟩]

/-- The level below `generate`. -/
def generateLevel : Level :=
  .mk (settingsOption :: outputOptions ++ [⟨"dsl-out", none, some .path⟩, ⟨"strict", none, none⟩])
    [⟨"text", .text⟩] [] false

/-- The level below `compile`. -/
def compileLevel : Level := .mk (settingsOption :: outputOptions) [⟨"dsl", .path⟩] [] false

/-- The level below `validate`. -/
def validateLevel : Level := .mk [settingsOption] [⟨"dsl", .path⟩] [] false

/-- The level below `config`. -/
def configLevel : Level :=
  .mk [settingsOption] []
    [("set", .mk [settingsOption] [⟨"key", .text⟩, ⟨"value", .text⟩] [] false),
     ("unset", .mk [settingsOption] [⟨"key", .text⟩] [] false),
     ("show", .mk [settingsOption] [] [] false)] false

/-- The outermost level. -/
def topLevel : Level :=
  .mk [settingsOption] []
    [("generate", generateLevel), ("compile", compileLevel), ("validate", validateLevel),
     ("config", configLevel)] true

/-- The answer to a question for the version. -/
def versionLine : String := "nl2ui 0.1.0"

/-! ## Reading -/

/-- The text under a name; what is required is always there. -/
def textAt (matched : Matches) (name : String) : String := (matched.value? name).getD ""

/-- The path under a name. -/
def pathAt? (matched : Matches) (name : String) : Option Path := (matched.value? name).map Path.mk

/-- The choices for the output of a source. -/
def outputChoice (matched : Matches) : OutputChoice :=
  ⟨pathAt? matched "out", matched.has "live-imports"⟩

/-- The task of a command line. -/
def taskOf (matched : Matches) : Except UsageError Task :=
  match matched.subcommands with
  | ["generate"] =>
    .ok (.generate (textAt matched "text") (outputChoice matched) (pathAt? matched "dsl-out")
      (matched.has "strict"))
  | ["compile"] => .ok (.compile ⟨textAt matched "dsl"⟩ (outputChoice matched))
  | ["validate"] => .ok (.validate ⟨textAt matched "dsl"⟩)
  | ["config", "set"] => .ok (.setKey (textAt matched "key") (textAt matched "value"))
  | ["config", "unset"] => .ok (.unsetKey (textAt matched "key"))
  | ["config", "show"] => .ok .showSettings
  | _ => .error .missingSubcommand

/-- The invocation of a list of arguments. -/
def Invocation.read (args : List String) : Except UsageError Invocation :=
  match topLevel.read args with
  | .error e => .error e
  | .ok matched =>
    match taskOf matched with
    | .ok task => .ok ⟨pathAt? matched "settings", task⟩
    | .error e => .error e

end PageSketch.Command
